import HeaderForge.Manifest.Codec

/-!
# Choices

A value of one of several variants. A variant that carries nothing is written as its name; one that
carries a value as an object with one member, whose key is the name. In the second form a variant that
carries nothing has the value null.
-/

namespace HeaderForge.Manifest

/-- A variant of a choice. -/
inductive Variant (α : Type) where
  /-- Carries nothing. -/
  | plain (value : α)
  /-- Carries a value, from which the whole is read. -/
  | carrying (read : Reader α)

/-- Reads the null of a variant that carries nothing. In content read ahead an empty object will do. -/
def readNothing : Reader Unit := fun site json =>
  match json with
  | .null => .ok ()
  | .object [] => if site.isReadAhead then .ok () else mismatch "unit" (.object [])
  | json => mismatch "unit" json

/-- The variant of a name. -/
def findVariant (variants : List (String × β)) (name : String) : Except Fault β :=
  match variants.lookup name with
  | some variant => .ok variant
  | none => .error (.unknownVariant name (variants.map Prod.fst))

/-- Reads a variant from its bare name. -/
def Variant.readBare : Variant α → Except Fault α
  | plain value => .ok value
  | carrying _ => .error (.wrongType .bareVariant "newtype variant")

/-- Reads a variant from what it carries. -/
def Variant.readCarried : Variant α → Reader α
  | plain value => fun site json => (readNothing site json).map fun _ => value
  | carrying read => read

/-- Reads one of several variants. -/
def readChoice (variants : List (String × Variant α)) : Reader α := fun site json =>
  match json with
  | .string (some name) => do (← findVariant variants name).readBare
  | .object members =>
    if site.isReadAhead then
      match members with
      | [(some name, json)] => do
        let site ← site.inside
        (← findVariant variants name).readCarried site json
      | _ => .error .notOneMember
    else
      match members with
      | (some name, json) :: rest => do
        let site ← site.inside
        let value ← (← findVariant variants name).readCarried site json
        if rest.isEmpty then pure value else .error .malformed
      | _ => .error .malformed
  | json => if site.isReadAhead then mismatch "string or map" json else .error .malformed

/-- The codec of a choice of which no variant carries anything. -/
def names (variants : List (String × α)) (nameOf : α → String) : Codec α where
  read := readChoice (variants.map fun (name, value) => (name, .plain value))
  write value := .text (nameOf value)

end HeaderForge.Manifest
