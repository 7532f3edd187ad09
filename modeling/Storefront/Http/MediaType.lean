import Storefront.Trace.Carrier

/-!
# Media types

The form of a content type: a type and a subtype joined by a slash, and parameters, each after a
semicolon. Types, names, and plain values are made of token characters; a value may stand between
double quotes and then holds anything that is shown. `isJson` accepts the types for JSON and refuses
every text that is not a content type.
-/

namespace Storefront.MediaType

/-- A character of a type or a name. -/
def isToken (c : Char) : Bool :=
  HeaderFields.isNameChar c

/-- A character between quotes. -/
def isQuotable (c : Char) : Bool :=
  32 ≤ c.toNat && c.toNat ≠ 127

/-- The token characters at the start, and what follows them. -/
def token (cs : List Char) : List Char × List Char :=
  (cs.takeWhile isToken, cs.dropWhile isToken)

/-- What follows a value between quotes. The value is not empty, so a quote at its start belongs to
it. -/
def afterQuoted? : List Char → Option (List Char)
  | [] => none
  | c :: cs =>
      if isQuotable c && (cs.takeWhile (· != '"')).all isQuotable then
        match cs.dropWhile (· != '"') with
        | [] => none
        | _ :: rest => some rest
      else none

/-- What follows a value and the semicolon after it. A plain value is not empty, unless nothing
follows. -/
def afterValue? (cs : List Char) : Option (List Char) :=
  match cs with
  | '"' :: rest => do
      let rest ← afterQuoted? rest
      match rest.dropWhile (· == ' ') with
      | [] => some []
      | ';' :: more => some more
      | _ => none
  | _ =>
      match token cs with
      | (_, []) => some []
      | (_ :: _, ';' :: more) => some more
      | _ => none

/-- What follows a parameter: blanks, a name, an equals sign, and a value. -/
def afterParameter? (cs : List Char) : Option (List Char) :=
  match token (cs.dropWhile (· == ' ')) with
  | (_ :: _, '=' :: value) => afterValue? value
  | _ => none

/-- Characters are parameters, at most so many of them. -/
def areParameters : Nat → List Char → Bool
  | 0, cs => cs.all (· == ' ')
  | n + 1, cs =>
      cs.all (· == ' ') ||
        match afterParameter? cs with
        | some rest => areParameters n rest
        | none => false

/-- The type and the subtype of a content type, in small letters. -/
def parts? (s : String) : Option (String × String) :=
  match token s.toList with
  | (main@(_ :: _), '/' :: rest) =>
      let parts := (foldCase (String.ofList main), foldCase (String.ofList (token rest).1))
      match token rest with
      | (_, []) => some parts
      | (_ :: _, ';' :: more) => if areParameters more.length more then some parts else none
      | _ => none
  | _ => none

/-- What stands before the last plus sign that is not at the start, or everything. -/
def withoutSuffix (subtype : List Char) : List Char :=
  match subtype with
  | [] => []
  | c :: cs =>
      if cs.contains '+' then c :: ((cs.reverse.dropWhile (· != '+')).drop 1).reverse
      else c :: cs

/-- What stands after the last plus sign that is not at the start, if there is one. -/
def suffix? (subtype : List Char) : Option (List Char) :=
  match subtype with
  | [] => none
  | _ :: cs =>
      if cs.contains '+' then some (cs.reverse.takeWhile (· != '+')).reverse else none

/-- A content type for JSON: `application/json`, or any type of application whose suffix is
`json`. -/
def isJson (contentType : String) : Bool :=
  match parts? contentType with
  | some (main, subtype) =>
      main == "application" &&
        (withoutSuffix subtype.toList == "json".toList ||
          suffix? subtype.toList == some "json".toList)
  | none => false

end Storefront.MediaType
