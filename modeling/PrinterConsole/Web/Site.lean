/-
  The site: its places, their addresses, and the way from an address to a place.

  All places lie under the root of the printer.  A target that misses a place only by a slash is
  sent on to the right one (`betterPath?`); a place that exists but does not take the method is
  told from one that does not exist.

  `link` writes the address of a place and `route` reads one; they meet in `pathOf`, the path of a
  place with its codes read.

  Main statement: the address of every place leads to it (`route_pathOf`).
-/
import PrinterConsole.Text.Part
import PrinterConsole.Web.PercentCode

namespace PrinterConsole.Web

open PrinterConsole.Text

/-! ## Places -/

/-- The pages of a printer, of which some can be submitted (`Place.takesForms`). -/
inductive Place where
  | status | config | printing | media | supplies | jobs | cancel | cancelAll
  deriving DecidableEq, Repr

/-- What a request does: it looks at a page, or submits a form. -/
inductive Method where
  | get | post
  deriving DecidableEq, Repr

namespace Place

/-- All places, in the order in which they are searched. -/
def all : List Place := [status, config, printing, media, supplies, jobs, cancel, cancelAll]

/-- The path of a `Place` below the root, different for every place. -/
def path : Place → String
  | status => "/"
  | config => "/config"
  | printing => "/printing"
  | media => "/media"
  | supplies => "/supplies"
  | jobs => "/jobs"
  | cancel => "/cancel"
  | cancelAll => "/cancelall"

/-- The page of the `Place` has a form. -/
def takesForms : Place → Bool
  | config | printing | media | cancel | cancelAll => true
  | status | supplies | jobs => false

/-- The place `p` takes a `Method`. -/
def takes (p : Place) : Method → Bool
  | .get => true
  | .post => p.takesForms

end Place

/-- How the pages are served. -/
structure Site where
  /-- What the paths of all places begin with; empty, or it begins with a slash. -/
  root : String := ""
  /-- The version shown on pages that have no navigation. -/
  version : String := ""
  /-- The printer is one of several: pages tell its name and have a navigation. -/
  multiQueue : Bool := false
  deriving DecidableEq, Repr

/-- The target of a request. -/
structure Target where
  host : String := "localhost"
  /-- The path, its percent codes read. -/
  path : String
  /-- The query as it was sent. -/
  query : String := ""
  deriving DecidableEq, Repr

namespace Target

/-- The path `cs` begins with a single slash, unless it is empty. -/
def oneSlash (cs : List Char) : String :=
  if cs.isEmpty then "" else String.ofList ('/' :: cs.dropWhile (· == '/'))

/-- The target of a text: `//host` if it begins with two slashes, a path, `?` and a query. -/
def ofText (text : String) : Target :=
  let cs := text.toList
  let hasHost := startsWith "//" text
  let afterMark := if hasHost then cs.drop 2 else []
  let isEnd (c : Char) : Bool := c == '/' || c == '?' || c == '#'
  let host := String.ofList (afterMark.takeWhile fun c => !isEnd c)
  let rest := if hasHost then afterMark.dropWhile fun c => !isEnd c else cs
  let whole := rest.takeWhile (· != '#')
  { host := if host.isEmpty then "localhost" else host
    path := oneSlash (percentDecode (whole.takeWhile (· != '?')))
    query := String.ofList ((whole.dropWhile (· != '?')).drop 1) }

/-- The whole address of `path` on the host of the target, with its query. -/
def sentTo (t : Target) (path : String) : String :=
  "http://" ++ t.host ++ encodePath path ++ (if t.query.isEmpty then "" else "?" ++ t.query)

end Target

namespace Site

/-- The `root` without slashes at its end. -/
def trimmedRoot (s : Site) : String :=
  String.ofList (s.root.toList.reverse.dropWhile (· == '/')).reverse

/-- The path of the place `p`, below the root of the site. -/
def pathOf (s : Site) (p : Place) : String := s.trimmedRoot ++ p.path

/-- The address of the place `p`, as pages and redirections write it. -/
def link (s : Site) (p : Place) : String := encodePath (s.pathOf p)

/-! ## Routes -/

/-- Where a request leads. -/
inductive Route where
  | place (p : Place)
  /-- The same request is to be made to another address. -/
  | elsewhere (location : String)
  /-- The place does not take the method. -/
  | notTaken
  | missing
  deriving DecidableEq, Repr

/-- The place at a path, if there is one; there is at most one (`pathOf_beq`). -/
def placeAt? (s : Site) (path : String) : Option Place :=
  Place.all.find? fun p => s.pathOf p == path

/-- The part `path` of a path is below the folder of static files, of which there are none. -/
def isStatic (path : String) : Bool :=
  startsWith "/static/" path && match path.toList.drop 8 with
    | [] => false
    | c :: _ => c != '/'

/-- Some page or file may stand at `path` for the method `m`. -/
def isServed (s : Site) (m : Method) (path : String) : Bool :=
  (s.placeAt? path).any (·.takes m) || (isStatic path && m == .get)

/-- Something may stand at `path` for some method. -/
def isKnown (s : Site) (path : String) : Bool := (s.placeAt? path).isSome || isStatic path

/-- Every pair of slashes made one. -/
def mergeSlashes : List Char → List Char
  | '/' :: '/' :: rest => '/' :: mergeSlashes rest
  | c :: rest => c :: mergeSlashes rest
  | [] => []

/-- The path at which a request for `path` should have been made: with a slash at its end, or with
    its double slashes merged. -/
def betterPath? (s : Site) (m : Method) (path : String) : Option String :=
  let merged := String.ofList (mergeSlashes path.toList)
  let lacksSlash (p : String) : Bool := m == .get && p ++ "/" == s.pathOf .status
  if lacksSlash path then some (path ++ "/")
  else if s.isServed m merged then some merged
  else if lacksSlash merged then some (merged ++ "/")
  else none

/-- Where a request with the target `t` leads.  A place at the very path comes first, then static
    files, then another path that is nearly the same. -/
def route (s : Site) (m : Method) (t : Target) : Route :=
  match s.placeAt? t.path with
  | some p => if p.takes m then .place p else .notTaken
  | none =>
    if isStatic t.path then (if m == .get then .missing else .notTaken)
    else match s.betterPath? m t.path with
      | some path => .elsewhere (t.sentTo path)
      | none =>
        if s.isKnown (String.ofList (mergeSlashes t.path.toList)) then .notTaken else .missing

/-! ## Links lead to their places -/

/-- Two places have one path (`pathOf`) only if they are the same, since they share the root and
    differ below it. -/
theorem pathOf_beq (s : Site) (p q : Place) : (s.pathOf p == s.pathOf q) = (p == q) := by
  have h : (s.pathOf p == s.pathOf q) = (p.path == q.path) := by
    by_cases hpq : p.path = q.path
    · simp [pathOf, hpq]
    · have hs : s.pathOf p ≠ s.pathOf q := fun hs => hpq ((String.append_right_inj _).1 hs)
      rw [beq_false_of_ne hpq, beq_false_of_ne hs]
  rw [h]
  cases p <;> cases q <;> decide

/-- At the path of a place stands that place: it is found, and by `pathOf_beq` no other. -/
theorem placeAt?_pathOf (s : Site) (p : Place) : s.placeAt? (s.pathOf p) = some p := by
  simp only [placeAt?, pathOf_beq]
  cases p <;> rfl

/-- A request for the path of the place `p` leads there, unless the place does not take the method,
    which is then told. -/
theorem route_pathOf (s : Site) {p : Place} {m : Method} {t : Target} (ht : t.path = s.pathOf p) :
    s.route m t = if p.takes m then .place p else .notTaken := by
  simp only [route, ht, placeAt?_pathOf]

end Site

end PrinterConsole.Web
