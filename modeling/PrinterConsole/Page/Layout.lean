/-
  The layout of all pages: head, header, navigation or version, banner, and the page's own
  content.

  What is the same on every page is in `Surroundings`, what differs from page to page in
  `Heading`, so a page is `layout` of the two and of its content.  A printer that is one of
  several has a navigation, any other the version.
-/
import PrinterConsole.Page.Basic
import PrinterConsole.Web.Site

namespace PrinterConsole.Page

open PrinterConsole.Web

/-- A line above the content that tells how a submission went. -/
structure Banner where
  message : String
  isError : Bool
  deriving DecidableEq, Repr

/-- What the `layout` shows of the printer on every page. -/
structure Surroundings where
  site : Site
  printerName : String
  /-- The navigation offers the supplies. -/
  showSupplies : Bool

/-- What the `layout` shows of one page. -/
structure Heading where
  title : String
  /-- The place that the navigation marks as the current one. -/
  current : Option Place := none
  /-- The page is loaded again after ten seconds. -/
  refresh : Bool := false
  banner : Option Banner := none

/-- The address of the place `p`. -/
def link (site : Site) (p : Place) : Page := value (site.link p)

/-! ## Style sheet -/

/-- A rule of the style sheet: a selector and its declarations. -/
structure StyleRule where
  selector : String
  declarations : List String

/-- The rule `r` as a line of the style sheet. -/
def StyleRule.line (r : StyleRule) : String :=
  "    " ++ r.selector ++ " \x7b " ++ String.join (r.declarations.map (· ++ "; ")) ++ "\x7d\n"

/-- The style of all pages. -/
def styleRules : List StyleRule := [
  ⟨"body", ["font-family: sans-serif", "margin: 0"]⟩,
  ⟨".header", ["background: #333", "color: #fff", "padding: 10px 20px"]⟩,
  ⟨".header h1", ["font-size: 1.5em", "margin: 0"]⟩,
  ⟨".nav", ["list-style: none", "margin: 0", "padding: 5px 20px", "background: #eee"]⟩,
  ⟨".nav li", ["display: inline-block", "margin-right: 15px"]⟩,
  ⟨".nav .active", ["font-weight: bold"]⟩,
  ⟨".version", ["padding: 5px 20px", "background: #eee", "font-size: 0.9em"]⟩,
  ⟨".content", ["padding: 10px 20px"]⟩,
  ⟨".banner",
    ["background: #cfc", "border: 1px solid #080", "padding: 5px 10px", "margin: 10px 0"]⟩,
  ⟨".banner.error", ["background: #fcc", "border-color: #c00"]⟩,
  ⟨".btn",
    ["border: 1px solid #999", "border-radius: 3px", "padding: 2px 8px", "text-decoration: none",
     "color: #000", "background: #f7f7f7"]⟩,
  ⟨"table.form th", ["text-align: right", "vertical-align: top", "padding-right: 10px"]⟩,
  ⟨"table.list", ["border-collapse: collapse"]⟩,
  ⟨"table.list th, table.list td",
    ["border-bottom: 1px solid #ccc", "padding: 3px 10px", "text-align: left"]⟩,
  ⟨"label.image", ["display: inline-block", "margin-right: 10px"]⟩,
  ⟨".state",
    ["display: inline-block", "width: 12px", "height: 12px", "border-radius: 6px",
     "margin-right: 5px"]⟩,
  ⟨".state.idle", ["background: #0C0"]⟩,
  ⟨".state.processing", ["background: #FC0"]⟩,
  ⟨".state.stopped", ["background: #C00"]⟩,
  ⟨"td.meter", ["width: 50%"]⟩,
  ⟨"span.bar", ["display: inline-block", "line-height: 1", "border: 1px solid #777"]⟩]

/-! ## Header -/

/-- The title, with the printer's name (`printerName`) if it is one of several; both in the head and
    above the page. -/
def titleLine (s : Surroundings) (h : Heading) : Page :=
  value h.title ++ when s.site.multiQueue (" - " ++ value s.printerName)

/-- The places of the navigation besides the status. -/
def navigation : List (Place × String) := [
  (.config, "Configuration"),
  (.media, "Media"),
  (.printing, "Printing Defaults"),
  (.supplies, "Supplies")]

/-- An `entry` of the navigation: the current place is marked, any other is a link, and supplies are
    there only if the printer has some. -/
def navigationEntry (s : Surroundings) (h : Heading) (entry : Place × String) : Page :=
  let (place, label) := entry
  let shown := place != .supplies || s.showSupplies
  let mark : Page :=
    if h.current == some place then
      "\n  <li><span class=\"active\">" ++ value label ++ "</span></li>\n  "
    else
      "\n  <li><a href=\"" ++ link s.site place ++ "\">" ++ value label ++ "</a></li>\n  "
  "\n  " ++ when shown ("\n  " ++ mark ++ "\n  ") ++ "\n  "

/-- The navigation of a printer that is one of several; else the version, if it is known. -/
def subheader (s : Surroundings) (h : Heading) : Page :=
  if s.site.multiQueue then
    "\n\n<ul class=\"nav\">\n  <li><a href=\"" ++ link s.site .status ++ "\">Status</a></li>\n  " ++
      each navigation (navigationEntry s h) ++ "\n</ul>\n"
  else
    when (!s.site.version.isEmpty)
      ("\n<div class=\"version\">Version " ++ value s.site.version ++ "</div>\n")

/-- The title of the page, and below it the navigation or the version. -/
def header (s : Surroundings) (h : Heading) : Page :=
  "<div class=\"header\">\n  <h1>" ++ titleLine s h ++ "</h1>\n</div>\n" ++ subheader s h

/-! ## The whole page -/

/-- The head of a page. -/
def head (s : Surroundings) (h : Heading) : Page :=
  "<head>\n  <meta charset=\"utf-8\">\n" ++
  fixed "  <meta name=\"viewport\" content=\"width=device-width, initial-scale=1\">\n  " ++
  when h.refresh "<meta http-equiv=\"refresh\" content=\"10\">" ++
  "\n  <title>" ++ titleLine s h ++ "</title>\n  <style>\n" ++
  fixed (String.join (styleRules.map StyleRule.line)) ++ "  </style>\n</head>\n"

/-- The `banner`, if there is one; an error has a class of its own. -/
def bannerLine (banner : Option Banner) : Page :=
  match banner with
  | none => empty
  | some b =>
    "<div class=\"banner" ++ when b.isError " error" ++ "\">" ++ value b.message ++ "</div>"

/-- A whole page: `head`, `header`, the banner and the content. -/
def layout (s : Surroundings) (h : Heading) (content : Page) : Page :=
  "<!DOCTYPE html>\n<html lang=\"en\">\n" ++ head s h ++ "<body>\n  " ++ header s h ++
  "\n  <div class=\"content\">\n    " ++ bannerLine h.banner ++ "\n    " ++ content ++
  "\n  </div>\n</body>\n</html>"

/-- The page of an address that has no page, or of a failure, with its `title` and `message`. -/
def errorPage (s : Surroundings) (title message : String) : Page :=
  layout s { title := title, banner := some ⟨message, true⟩ }
    ("\n<p><a class=\"btn\" href=\"" ++ link s.site .status ++ "\">Back to Status</a></p>\n")

end PrinterConsole.Page
