/-
  The job pages: the table of jobs, and the forms that cancel one job or all of them.

  All three go through `jobTable`, which writes the rows in the order they are given: the history
  shows all jobs, the newest first (`allJobs`), and the page that cancels all of them the active
  ones, the oldest first.
-/
import PrinterConsole.Jobs.Queue
import PrinterConsole.Page.Controls
import PrinterConsole.Page.Layout

namespace PrinterConsole.Page

open PrinterConsole.Web

/-! ## The table -/

/-- The row `r` of a job table; a job that can be canceled leads to the page for that. -/
def jobRow (site : Site) (r : Job.Row) : Page :=
  let cancel : Page :=
    "<a class=\"btn\" href=\"" ++ link site .cancel ++ "?job-id=" ++ number r.id ++
    "\">Cancel Job</a>"
  "\n    <tr>\n      <td>" ++ number r.id ++ "</td>\n      <td>" ++ value r.name ++
  "</td>\n      <td>" ++ value r.owner ++ "</td>\n      <td>" ++ number r.impressions ++
  "</td>\n      <td>" ++ value r.whenText ++ "</td>\n      <td>" ++ when r.showCancel cancel ++
  "</td>\n    </tr>\n    "

/-- The column titles of a job table. -/
def jobColumns : String :=
  "<tr><th>Job #</th><th>Name</th><th>Owner</th><th>Pages Completed</th><th>Status</th>" ++
  "<th></th></tr>"

/-- A job table; `emptyText` in its place if there are no jobs. -/
def jobTable (site : Site) (showCancelAll : Bool) (emptyText : String) (rows : List Job.Row) :
    Page :=
  let cancelAll : Page :=
    "\n<p><a class=\"btn\" href=\"" ++ link site .cancelAll ++ "\">Cancel All Jobs</a></p>\n"
  if rows.isEmpty then "\n<p>" ++ value emptyText ++ "</p>\n"
  else
    "\n" ++ when showCancelAll cancelAll ++ "\n<table class=\"list\">\n  <thead>\n    " ++
    fixed jobColumns ++ "\n  </thead>\n  <tbody>\n    " ++ each rows (jobRow site) ++
    "\n  </tbody>\n</table>\n"

/-- The table of all jobs, the newest first (`newestFirst`). -/
def allJobs (site : Site) (queue : JobQueue) : Page :=
  jobTable site true "No jobs in history." (queue.newestFirst.map Job.row)

/-! ## The pages -/

/-- The job history. -/
def jobsContent (site : Site) (queue : JobQueue) : Page :=
  "\n\n\n" ++ allJobs site queue ++ "\n"

/-- The line that says that the job `j` is to be canceled. -/
def jobLine (j : Job) : Page :=
  "<p>Job #" ++ number j.id ++ ": " ++ value j.name ++ " (" ++ value j.owner ++ ")</p>"

/-- The form that cancels the job of the number `id`; there is none for the number 0, which no job
    has. -/
def cancelContent (site : Site) (queue : JobQueue) (id : Int) : Page :=
  let form : Page :=
    "\n" ++ ((queue.find? id).map jobLine).getD empty ++ "\n<form method=\"post\" action=\"" ++
    link site .cancel ++ "\">\n  " ++ tokenField ++
    "\n  <input type=\"hidden\" name=\"job-id\" value=\"" ++ number id ++
    "\">\n  <input type=\"submit\" value=\"Confirm Cancel Job\">\n</form>\n"
  "\n" ++ when (id != 0) form ++ "\n"

/-- The form that cancels all active jobs, and their table. -/
def cancelAllContent (site : Site) (queue : JobQueue) : Page :=
  let rows := queue.active.map Job.row
  let form : Page :=
    "\n<form method=\"post\" action=\"" ++ link site .cancelAll ++ "\">\n  " ++ tokenField ++
    "\n  <input type=\"submit\" value=\"Confirm Cancel All\">\n</form>\n"
  "\n" ++ when (!rows.isEmpty) form ++ "\n\n\n" ++
  jobTable site false "No active jobs currently." rows ++ "\n"

end PrinterConsole.Page
