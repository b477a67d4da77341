/-!
# Paths

A path is a text whose segments are separated by slashes. Empty segments and single dots name
nothing, except that a path that begins with a dot says so. The name of the file a path leads to
splits into a stem and an extension at its last dot.
-/

namespace Rekindle.Text.Path

/-- The segments of a path between slashes, on characters. -/
def segments : List Char → List (List Char)
  | [] => [[]]
  | c :: rest =>
    if c = '/' then [] :: segments rest
    else match segments rest with
      | [] => [[c]]
      | segment :: others => (c :: segment) :: others

/-- The last segment that names something, counting the slashes that are skipped behind it. -/
def lastNamed (path : List Char) : List (List Char) :=
  ((segments path).reverse).dropWhile fun segment => segment = [] ∨ segment = ['.']

/-- The segments that name something. Two paths with the same ones lead to the same place, unless
only one of them starts at a root. -/
def names (path : String) : List (List Char) :=
  (segments path.toList).filter fun segment => segment ≠ [] ∧ segment ≠ ['.']

/-- The file a path leads to, absent for a root, a parent and a path of dots alone. -/
def fileName (path : String) : Option String :=
  match lastNamed path.toList with
  | [] => none
  | segment :: _ => if segment = ['.', '.'] then none else some (String.ofList segment)

/-- Splits a file name at its last dot; a leading dot alone does not split. -/
def splitAtDot (name : List Char) : List Char × Option (List Char) :=
  let after := name.reverse.takeWhile (· ≠ '.')
  match name.reverse.dropWhile (· ≠ '.') with
  | [] => (name, none)
  | _ :: before => if before = [] then (name, none) else (before.reverse, some after.reverse)

def fileStem (path : String) : Option String :=
  (fileName path).map fun name => String.ofList (splitAtDot name.toList).1

/-- The path up to the end of the file's stem, followed by another extension. A path that leads to
no file is left alone. -/
def withExtension (path extension : String) : String :=
  match lastNamed path.toList with
  | [] => path
  | segment :: before =>
    if segment = ['.', '.'] then path
    else
      let stem := (splitAtDot segment).1
      let leading := before.reverse.flatMap (· ++ ['/'])
      String.ofList (leading ++ stem) ++ "." ++ extension

/-- What the name of a file in a folder follows. The empty path and a path that ends in a slash need
no slash behind them. -/
def joint (folder : String) : String :=
  match folder.toList.getLast? with
  | none => folder
  | some last => if last = '/' then folder else folder ++ "/"

/-- The path of a file in a folder. -/
def inside (folder name : String) : String :=
  joint folder ++ name

end Rekindle.Text.Path
