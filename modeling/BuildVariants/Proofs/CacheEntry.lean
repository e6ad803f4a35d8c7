import BuildVariants.CacheEntry
import BuildVariants.Text.Pieces

/-!
# Arguments read back

In an argument of `cmake` the name, the type and the value of an entry run into
each other, and a value may hold any characters, colons and equals signs and
whole arguments among them. Still an argument stands for one entry only
(`render_injective`): the first equals sign ends the name or its type, whatever
follows it, and no name of ours holds one. `CacheEntry.read?` reads arguments
back in this way.
-/

namespace BuildVariants

namespace CacheEntry

/-- The entry of a name, which may end in a type, and a value. -/
def ofParts? (head value : List Char) : Option CacheEntry :=
  match Text.cutAt? ':' head with
  | none => some (plain (.ofList head) (.ofList value))
  | some (name, type) =>
    if type = CacheType.string.keyword.toList then some (typed (.ofList name) (.ofList value))
    else none

/-- **Read an argument back**: what stands before the first equals sign is the
name, with its type if there is a colon. -/
def read? (argument : String) : Option CacheEntry :=
  match argument.toList with
  | '-' :: 'D' :: rest => (Text.cutAt? '=' rest).bind fun cut => ofParts? cut.1 cut.2
  | _ => none

theorem read?_of_toList {argument : String} {rest : List Char}
    (h : argument.toList = '-' :: 'D' :: rest) :
    read? argument = (Text.cutAt? '=' rest).bind fun cut => ofParts? cut.1 cut.2 := by
  unfold read?
  rw [h]
  rfl

/-- **A name that can be read back** ends before the first colon or equals
sign of an argument. -/
def PlainName (name : String) : Prop := '=' ∉ name.toList ∧ ':' ∉ name.toList

instance (name : String) : Decidable (PlainName name) := by
  unfold PlainName
  infer_instance

/-- **An argument reads back as its entry.** -/
theorem read?_render {entry : CacheEntry} (h : PlainName entry.name) :
    read? entry.render = some entry := by
  obtain ⟨name, type, value⟩ := entry
  have hequals : '=' ∉ name.toList := h.1
  have hcolon : ':' ∉ name.toList := h.2
  cases type with
  | none =>
    have hchars : (render ⟨name, none, value⟩).toList
        = '-' :: 'D' :: (name.toList ++ '=' :: value.toList) := by
      simp [render]
    rw [read?_of_toList hchars, Text.cutAt?_append hequals, Option.bind_some, ofParts?,
      Text.cutAt?_eq_none_iff.2 hcolon]
    simp [plain]
  | some type =>
    cases type
    have hchars : (render ⟨name, some .string, value⟩).toList
        = '-' :: 'D' :: ((name.toList ++ ':' :: CacheType.string.keyword.toList)
            ++ '=' :: value.toList) := by
      simp [render]
    have hhead : '=' ∉ name.toList ++ ':' :: CacheType.string.keyword.toList := by
      rw [List.mem_append]
      exact not_or.2 ⟨hequals, by decide⟩
    rw [read?_of_toList hchars, Text.cutAt?_append hhead, Option.bind_some, ofParts?,
      Text.cutAt?_append hcolon]
    simp [typed]

/-- **Entries that make the same argument are the same.** -/
theorem render_injective {first second : CacheEntry} (hf : PlainName first.name)
    (hs : PlainName second.name) (h : first.render = second.render) : first = second := by
  have hread := read?_render hf
  rw [h, read?_render hs] at hread
  exact (Option.some.inj hread).symm

end CacheEntry

end BuildVariants
