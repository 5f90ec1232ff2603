import ClientGen.Text.Chars

/-!
# Paths as texts

Paths written with slashes, as texts: joining, normal form, and the way from one directory to
another. Nothing is looked up. In the normal form two dots take back the segment before them; a
tidy path keeps them, because they need not lead back on a disk.
-/

namespace ClientGen.Path

open ClientGen.Text

/-- The segments of a path that are neither empty nor a single dot. -/
def segments (path : String) : List String :=
  ((pieces '/' path.toList).map String.ofList).filter fun s => s != "" && s != "."

/-- Whether a path starts at the root. -/
def isAbsolute (path : String) : Bool :=
  path.toList.head? == some '/'

/-- The slashes in front of a path: exactly two stay two, any other number above none is one. -/
def rootMarks (path : String) : String :=
  match path.toList with
  | '/' :: '/' :: '/' :: _ => "/"
  | '/' :: '/' :: _ => "//"
  | '/' :: _ => "/"
  | _ => ""

/-- Let two dots take back the segment before them. What has nothing to take back is dropped at the
root and stays otherwise. The segments so far come first, the last one in front. -/
def collapse (rooted : Bool) : List String → List String → List String
  | done, [] => done.reverse
  | done, s :: rest =>
    if s == ".." then
      match done with
      | [] => if rooted then collapse rooted [] rest else collapse rooted [".."] rest
      | d :: ds =>
        if d == ".." then collapse rooted (".." :: d :: ds) rest else collapse rooted ds rest
    else collapse rooted (s :: done) rest

/-- The normal form of a path; that of nothing is a single dot. -/
def normalise (path : String) : String :=
  let marks := rootMarks path
  let body := marks ++ "/".intercalate (collapse (marks != "") [] (segments path))
  if body == "" then "." else body

/-- Put a path behind another, unless it starts at the root. -/
def join (a b : String) : String :=
  if isAbsolute b then b
  else if a.isEmpty || endsWith a.toList ['/'] then a ++ b
  else a ++ "/" ++ b

/-- Put several paths behind each other. -/
def joinAll (first : String) (rest : List String) : String :=
  rest.foldl join first

/-- The way between two lists of segments: back out of the one, then into the other. -/
def between : List String → List String → List String
  | a :: as, b :: bs =>
    if a == b then between as bs else List.replicate (as.length + 1) ".." ++ b :: bs
  | as, bs => List.replicate as.length ".." ++ bs

/-- The way from a directory to a path, both taken from the same place. A relative path is taken
from the directory `here`. -/
def relative (here target start : String) : String :=
  let absolute (p : String) := segments (normalise (join here p))
  let way := between (absolute start) (absolute target)
  if way.isEmpty then "." else "/".intercalate way

/-- The part of a path before its last slash. Slashes at its end are dropped unless there is
nothing else. -/
def directory (path : String) : String :=
  let head := (path.toList.reverse.dropWhile (· != '/')).reverse
  if head.all (· == '/') then String.ofList head
  else String.ofList (dropEndWhile (· == '/') head)

/-! ### Tidy paths -/

/-- A path without empty segments, single dots and slashes at its end. -/
def tidy (path : String) : String :=
  let body := rootMarks path ++ "/".intercalate (segments path)
  if body == "" then "." else body

/-- A path below a directory; one that starts at the root stays. -/
def below (directory path : String) : String :=
  tidy (join directory path)

/-- The directory of a tidy path. That of a single name is a single dot, and the root is its own. -/
def parent (path : String) : String :=
  let marks := rootMarks path
  match (segments path).reverse with
  | [] => if marks == "" then "." else marks
  | _ :: rest => tidy (marks ++ "/".intercalate rest.reverse)

/-- The last segment of a path, if there is any. -/
def lastName (path : String) : String :=
  ((segments path).getLast?).getD ""

/-- The ending of the last segment: from its last point on, if that is neither its first nor its
last character. -/
def ending (path : String) : String :=
  let name := (lastName path).toList
  let tail := (name.reverse.takeWhile (· != '.')).reverse
  if tail.length + 1 < name.length ∧ !tail.isEmpty then String.ofList ('.' :: tail) else ""

/-- A path with another last segment. -/
def withName (path name : String) : String :=
  below (parent path) name

/-- The normal form of a path that is taken from the directory `here`, from the root on. Two slashes in
front of it are as good as one. -/
def resolve (here path : String) : String :=
  "/" ++ "/".intercalate (collapse true [] (segments (join here path)))

/-- The segments of `path` behind those of `directory`, when `path` starts with them. Both start at
the root. -/
def within? (directory path : String) : Option String :=
  let outer := segments directory
  let inner := segments path
  if outer.isPrefixOf inner then
    let rest := inner.drop outer.length
    some (if rest.isEmpty then "." else "/".intercalate rest)
  else none

end ClientGen.Path
