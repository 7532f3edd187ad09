import Storefront.Http.Address

/-!
# Request targets

What stands behind the method in a request: a path with a query, a whole address, or an asterisk.
`targetPath` is the path that is asked for. It is compared as it is written: nothing is decoded
or resolved, and a slash at its end counts.
-/

namespace Storefront.Http

/-- The character ends the path. -/
def endsPath (c : Char) : Bool :=
  c = '?' || c = '#'

/-- What follows a scheme and two slashes. -/
def afterScheme? (cs : List Char) : Option (List Char) :=
  match cs.dropWhile WebAddress.isSchemeChar with
  | ':' :: '/' :: '/' :: rest => some rest
  | _ => none

/-- The characters of the path that a target asks for. A whole address without a path asks for the
root, and a host alone asks for nothing. -/
def targetPathChars (cs : List Char) : List Char :=
  match cs with
  | '/' :: _ | ['*'] => cs.takeWhile fun c ↦ !endsPath c
  | _ =>
      match afterScheme? cs with
      | none => []
      | some rest =>
          let rest := rest.dropWhile fun c ↦ !WebAddress.endsAuthority false c
          match rest.takeWhile fun c ↦ !endsPath c with
          | [] => ['/']
          | path => path

/-- The path that a target asks for. -/
def targetPath (target : String) : String :=
  String.ofList (targetPathChars target.toList)

end Storefront.Http
