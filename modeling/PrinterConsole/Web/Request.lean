/-
  Requests and their answers.

  Only a URL-encoded body has form fields (`fieldsOf`); a body of any other kind is a submission
  without fields.  Fields and parameters are lists of pairs in the order they were sent, repeated
  names included; what a repeated name means is decided where it is looked up.
-/
import PrinterConsole.Text.Blank
import PrinterConsole.Web.Site
import PrinterConsole.Web.UrlEncoded

namespace PrinterConsole.Web

open PrinterConsole.Text

/-- A request of a visitor, its address and its body already read. -/
structure Request where
  method : Method
  target : Target
  /-- The fields of the body, repeated ones included. -/
  fields : List (String × String) := []
  deriving DecidableEq, Repr

/-- What a visitor gets back. -/
inductive Response where
  /-- A page with its status code. -/
  | page (status : Nat) (body : String)
  /-- An address to go on to. -/
  | redirect (status : Nat) (location : String)
  /-- The place does not take the method. -/
  | notTaken
  deriving DecidableEq, Repr

namespace Request

/-- The type of a body with the given `contentType` without its parameters, in lower case. -/
def mediaType (contentType : String) : String :=
  String.ofList ((trim (contentType.toList.takeWhile (· != ';'))).map Char.toLower)

/-- The type of a URL-encoded body. -/
def formType : String := "application/x-www-form-urlencoded"

/-- The fields of a `body`, if it is of the `formType`. -/
def fieldsOf (contentType body : String) : List (String × String) :=
  if mediaType contentType = formType then UrlEncoded.decode body else []

/-- The first text of the query parameter `name`. -/
def parameter? (r : Request) (name : String) : Option String :=
  (UrlEncoded.decode r.target.query).lookup name

end Request

end PrinterConsole.Web
