/-!
# Media types

Whether a `Content-Type` value announces JSON. The value must be visible ASCII. It is read as
a media type: a type and a subtype of token characters around a `/`, the subtype possibly
carrying a suffix after its last `+`, then parameters. Each parameter follows a `;`; spaces
may open it, and it is a name of token characters, `=`, and a token or a quoted string
(which spaces may follow). Case does not matter.

The value announces JSON when its type is `application` and its subtype or suffix is `json`.
-/

namespace PosixRegistry.Http

/-- The token characters of media types and parameters. -/
def isTokenChar (c : Char) : Bool :=
  c.isAlphanum || "!#$%&'*+-.^_`|~".toList.contains c

/-- The characters allowed inside a quoted parameter value. -/
def isQuotedChar (c : Char) : Bool := 31 < c.toNat && c.toNat != 127

/-- Where the parameter reader is. -/
inductive ParamState where
  | name (first : Bool)
  | value (first : Bool)
  | quoted (first : Bool)
  | afterQuote
  deriving DecidableEq

/-- Reads the parameters after the first `;`: whether they are well-formed. -/
def paramsWellFormed : ParamState → List Char → Bool
  | .name first, [] => first
  | .name first, c :: cs =>
    if c = ' ' && first then paramsWellFormed (.name true) cs
    else if isTokenChar c then paramsWellFormed (.name false) cs
    else if c = '=' && !first then paramsWellFormed (.value true) cs
    else false
  | .value _, [] => true
  | .value first, c :: cs =>
    if c = '"' && first then paramsWellFormed (.quoted true) cs
    else if isTokenChar c then paramsWellFormed (.value false) cs
    else if c = ';' && !first then paramsWellFormed (.name true) cs
    else false
  | .quoted _, [] => false
  | .quoted first, c :: cs =>
    if c = '"' && !first then paramsWellFormed .afterQuote cs
    else if isQuotedChar c then paramsWellFormed (.quoted false) cs
    else false
  | .afterQuote, [] => true
  | .afterQuote, c :: cs =>
    if c = ';' then paramsWellFormed (.name true) cs
    else if c = ' ' then paramsWellFormed .afterQuote cs
    else false

/-- A media type's essentials: type, subtype and suffix. -/
structure MediaType where
  type : String
  subtype : String
  suffix : Option String
  deriving DecidableEq, Repr

/-- Reads the subtype and what follows it: the subtype's characters, the position of its last
`+` and whether the parameters are well-formed. -/
def readSubtype : List Char → List Char → Option (List Char × Bool)
  | acc, [] => some (acc.reverse, true)
  | acc, c :: cs =>
    if c = ';' && !acc.isEmpty then some (acc.reverse, paramsWellFormed (.name true) cs)
    else if isTokenChar c then readSubtype (c :: acc) cs
    else none

/-- Reads a media type. -/
def MediaType.parse? (s : String) : Option MediaType :=
  if s = "*/*" then some ⟨"*", "*", none⟩
  else
    let cs := (String.map Char.toLower s).toList
    match cs.idxOf? '/' with
    | none => none
    | some slash =>
      let top := cs.take slash
      if top.isEmpty || !top.all isTokenChar then none
      else
        match readSubtype [] (cs.drop (slash + 1)) with
        | some (sub, true) =>
          let subText := String.ofList sub
          -- the last `+` after the first character splits off the suffix
          match (sub.drop 1).reverse.idxOf? '+' with
          | some i =>
            let cut := sub.length - 1 - i
            some ⟨String.ofList top, String.ofList (sub.take cut),
              some (String.ofList (sub.drop (cut + 1)))⟩
          | none => some ⟨String.ofList top, subText, none⟩
        | _ => none

/-- Whether a header value is visible ASCII (tab allowed). -/
def isVisibleAscii (s : String) : Bool :=
  s.toList.all fun c => (32 ≤ c.toNat && c.toNat < 127) || c = '\t'

/-- Whether a `Content-Type` value announces JSON. -/
def isJsonContentType (value : String) : Bool :=
  isVisibleAscii value &&
    match MediaType.parse? value with
    | some m => m.type == "application" && (m.subtype == "json" || m.suffix == some "json")
    | none => false

end PosixRegistry.Http
