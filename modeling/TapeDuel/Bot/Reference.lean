/-!
# References to bots

A bot is given by a path or by a web address, and its name is read off that reference:
the last component without its extension.
-/

namespace TapeDuel.Bot

/-- Whether a reference is a web address. -/
def isUrl (reference : String) : Bool :=
  reference.startsWith "http://" || reference.startsWith "https://"

/-- A list without the slashes at its end. -/
def dropSlashes (cs : List Char) : List Char :=
  (cs.reverse.dropWhile (· = '/')).reverse

/-- The last component of a path: a point for no path, a slash for slashes only. -/
def lastComponent (path : List Char) : List Char :=
  if path.isEmpty then ['.']
  else
    match ((dropSlashes path).reverse.takeWhile (· ≠ '/')).reverse with
    | [] => ['/']
    | name => name

/-- A file name without its extension, which starts at the last point. A name that is
an extension altogether stays. -/
def dropExtension (name : List Char) : List Char :=
  match name.reverse.dropWhile (· ≠ '.') with
  | [] => name
  | _ :: stem => if stem.isEmpty then name else stem.reverse

/-- The name of the bot behind a reference. What follows a question mark or a hash is
not part of the path. -/
def nameOf (reference : String) : String :=
  let path := (dropSlashes reference.toList).takeWhile fun c => c ≠ '?' && c ≠ '#'
  String.ofList (dropExtension (lastComponent path))

end TapeDuel.Bot
