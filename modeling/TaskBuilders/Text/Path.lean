import TaskBuilders.Text.Affix
import TaskBuilders.Text.Letter

/-!
# Slash-separated paths
-/

namespace TaskBuilders.Text

/-- The last element of a path, without trailing slashes; `.` for the empty path and `/` for a path
of slashes. -/
def pathBase (p : String) : String :=
  if p = "" then "."
  else
    match p.toList.reverse.dropWhile (· == '/') with
    | [] => "/"
    | back => String.ofList (back.takeWhile (· != '/')).reverse

/-- The elements of a clean path: empty ones and `.` are dropped, and `..` takes back the element
before it. Above the root of a rooted path there is nothing to take back. -/
def cleanElements (rooted : Bool) (elements : List String) : List String :=
  (elements.foldl (fun (acc : List String) e =>
    if e = "" || e = "." then acc
    else if e = ".." then
      match acc with
      | [] => if rooted then [] else [".."]
      | top :: below => if top = ".." then ".." :: acc else below
    else e :: acc) []).reverse

/-- The shortest path that names the same place. -/
def cleanPath (p : String) : String :=
  let rooted := p.toList.head? == some '/'
  let body := join "/" (cleanElements rooted (splitAtChar '/' p))
  if rooted then "/" ++ body else if body = "" then "." else body

/-- Joins path elements; empty ones are left out and the result is clean. -/
def joinPath (parts : List String) : String :=
  match parts.filter (· != "") with
  | [] => ""
  | present => cleanPath (join "/" present)

/-- The extension of the last element: from its last dot on, empty without a dot. -/
def pathExtension (p : String) : String :=
  let back := p.toList.reverse
  match back.dropWhile (fun c => c != '.' && c != '/') with
  | '.' :: _ => String.ofList ('.' :: (back.takeWhile (fun c => c != '.' && c != '/')).reverse)
  | _ => ""

end TaskBuilders.Text
