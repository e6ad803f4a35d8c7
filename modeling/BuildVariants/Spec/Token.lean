import BuildVariants.Spec

/-!
# Variant tokens

On a command line a variant is assigned by a token: `+name`, `~name` or
`name=value`. Blanks around a token do not count. A sign decides before an
equals sign does, so `+a=b` turns the variant `a=b` on, and everything after
the first equals sign is the value.
-/

namespace BuildVariants

/-- Why a text is no token. The text is kept without the blanks around it. -/
inductive TokenError
  /-- Neither a sign at the start nor an equals sign. -/
  | malformed (token : String)
  /-- No name after the sign or before the equals sign. -/
  | missingName (token : String)
deriving DecidableEq, Repr

/-- What a user is told. -/
def TokenError.message : TokenError → String
  | malformed token =>
    "invalid variant `" ++ token ++ "`: expected `+name`, `~name` or `name=value`"
  | missingName token => "invalid variant `" ++ token ++ "`: missing name"

/-- The name and value of a token without blanks around it, the name not yet
checked. -/
def splitToken? : List Char → Option (List Char × SuppliedValue)
  | '+' :: name => some (name, .bool true)
  | '~' :: name => some (name, .bool false)
  | token => (Text.cutAt? '=' token).map fun cut => (cut.1, .text (.ofList cut.2))

/-- Read a token. -/
def parseToken (text : String) : Except TokenError (String × SuppliedValue) :=
  let token := Text.trimChars text.toList
  match splitToken? token with
  | none => .error (.malformed (.ofList token))
  | some (name, value) =>
    if name = [] then .error (.missingName (.ofList token))
    else .ok (.ofList name, value)

/-- Assign the variants of some tokens, one after the other. One bad token
refuses them all. -/
def Spec.assignTokens (spec : Spec) : List String → Except TokenError Spec
  | [] => .ok spec
  | token :: tokens =>
    match parseToken token with
    | .error error => .error error
    | .ok (name, value) => (spec.assign name value).assignTokens tokens

end BuildVariants
