/-!
# Names of outputs

The output made from an input file has the name of that file with another extension.
-/

set_option autoImplicit false

namespace Columnar

/-- The extension of columnar outputs. -/
def outputExtension : String := "orc"

/-- A file name without its last dot and what follows it. A dot in front of everything does not
count. -/
def fileStem (name : String) : String :=
  match name.toList.reverse.dropWhile (· != '.') with
  | [] => name
  | [_] => name
  | _ :: before => String.ofList before.reverse

/-- Whether a part of a path names nothing: it is empty or the directory itself. -/
def isSilentPart (part : String) : Bool :=
  part == "" || part == "."

/-- The path of the output for the input at a path. The last part of the path that names something
gets the extension, and what is behind it goes. A path that ends in no file name stays as it is; one
that without its extension ends in the parent directory loses it and gets no other. -/
def outputPath (input : String) : String :=
  let parts := (input.splitOn "/").reverse
  let named := parts.dropWhile isSilentPart
  match named with
  | [] => input
  | name :: before =>
    let inPlace := fun (last : String) => String.intercalate "/" (before.reverse ++ [last])
    if name == ".." then input
    else if fileStem name == "." && named.length == parts.length then inPlace ".."
    else inPlace (fileStem name ++ "." ++ outputExtension)

end Columnar
