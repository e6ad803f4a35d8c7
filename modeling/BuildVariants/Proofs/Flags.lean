import BuildVariants.Proofs.CacheEntry
import BuildVariants.Proofs.Flags.Entries
import Mathlib.Data.List.Nodup

/-!
# What the flags of a plan say

The flags of a plan are texts in one list, and the entries that are missing
shift the others forward. Yet each cache name can be asked of the list: the
arguments that set a name are the one of its entry, or none
(`filter_sets_flagsOf`). So a flag is in the list exactly if it is the entry of
its name (`render_mem_flagsOf_iff`), and two lists of flags are equal only if
every name has the same entry in both (`entryOf?_eq_of_flagsOf_eq`) – whatever
texts the values hold, a path that looks like another argument among them.
-/

namespace BuildVariants

/-! ## The texts of cache names -/

namespace CacheName

/-- The cache name of a text. -/
def ofText? (text : String) : Option CacheName := order.find? (·.text = text)

/-- A cache name is found by its text. -/
theorem ofText?_text (name : CacheName) : ofText? name.text = some name := by
  cases name <;> decide

/-- No two cache names share a text. -/
theorem text_inj {first second : CacheName} : first.text = second.text ↔ first = second := by
  refine ⟨fun h => ?_, congrArg text⟩
  have hfound := ofText?_text first
  rw [h, ofText?_text] at hfound
  exact (Option.some.inj hfound).symm

/-- The text of a cache name can stand in an entry: nothing in it ends the name
early. -/
theorem plainName_text (name : CacheName) : CacheEntry.PlainName name.text := by
  cases name <;> decide

end CacheName

/-- **An argument sets a cache name** if it reads back as an entry of it. -/
def sets (name : CacheName) (argument : String) : Bool :=
  (CacheEntry.read? argument).any (·.name = name.text)

/-- An entry sets the name it is an entry of and no other. -/
theorem sets_render {entry : CacheEntry} {other : CacheName} (h : entry.name = other.text)
    (name : CacheName) : sets name entry.render = decide (other = name) := by
  have hplain : CacheEntry.PlainName entry.name := h ▸ other.plainName_text
  unfold sets
  rw [CacheEntry.read?_render hplain, Option.any_some, h]
  exact decide_eq_decide.2 CacheName.text_inj

/-! ## The entry of a name -/

variable {values values' : Values} {derived derived' : Derived}

/-- The entry that a name is asked for is one of this name. -/
theorem name_of_entryOf? {name : CacheName} {entry : CacheEntry}
    (h : entryOf? values derived name = some entry) : entry.name = name.text := by
  unfold entryOf? at h
  dsimp only at h
  repeat' split at h
  all_goals cases h
  all_goals rfl

/-- Of keys that occur once, one alone is picked. -/
theorem filterMap_pick {κ β : Type} [DecidableEq κ] {keys : List κ} (hnodup : keys.Nodup)
    {key : κ} (hmem : key ∈ keys) (f : κ → Option β) :
    keys.filterMap (fun k => if k = key then f k else none) = (f key).toList := by
  induction keys with
  | nil => cases hmem
  | cons first rest ih =>
    obtain ⟨hnew, hrest⟩ := List.nodup_cons.1 hnodup
    rw [List.filterMap_cons]
    by_cases hfirst : first = key
    · subst hfirst
      have hnone : rest.filterMap (fun k => if k = first then f k else none) = [] := by
        rw [List.filterMap_eq_nil_iff]
        intro k hk
        have hother : k ≠ first := by
          rintro rfl
          exact hnew hk
        exact if_neg hother
      rw [if_pos rfl, hnone]
      cases f first <;> rfl
    · rw [if_neg hfirst]
      exact ih hrest ((List.mem_cons.1 hmem).resolve_left (Ne.symm hfirst))

/-- **The arguments that set a name** are the one of its entry, or none if it
has no entry. -/
theorem filter_sets_flagsOf (values : Values) (derived : Derived) (name : CacheName) :
    (flagsOf values derived).filter (sets name)
      = (entryOf? values derived name).toList.map (·.render) := by
  rw [flagsOf, entriesOf_eq, List.filter_map, List.filter_filterMap]
  congr 1
  -- an entry is kept exactly if it is the one of the name
  have hpick : (fun other => (entryOf? values derived other).filter
        (sets name ∘ fun entry => entry.render))
      = fun other => if other = name then entryOf? values derived other else none := by
    funext other
    cases hentry : entryOf? values derived other with
    | none =>
      rw [ite_self]
      rfl
    | some entry =>
      rw [Option.filter_some, Function.comp_apply, sets_render (name_of_entryOf? hentry)]
      by_cases hname : other = name
      · rw [if_pos hname, decide_eq_true hname]
        rfl
      · rw [if_neg hname, decide_eq_false hname]
        rfl
  rw [hpick]
  exact filterMap_pick CacheName.nodup_order (CacheName.mem_order name) _

/-- **A flag is in the list exactly if it is the entry of its name.** -/
theorem render_mem_flagsOf_iff {name : CacheName} {entry : CacheEntry}
    (hname : entry.name = name.text) :
    entry.render ∈ flagsOf values derived ↔ entryOf? values derived name = some entry := by
  have hsets : sets name entry.render = true := by
    rw [sets_render hname, decide_eq_true rfl]
  have hfilter : entry.render ∈ flagsOf values derived
      ↔ entry.render ∈ (flagsOf values derived).filter (sets name) := by
    rw [List.mem_filter, and_iff_left hsets]
  rw [hfilter, filter_sets_flagsOf, List.mem_map]
  constructor
  · rintro ⟨found, hfound, hrender⟩
    have hentry := Option.mem_toList.1 hfound
    have hplain : CacheEntry.PlainName found.name :=
      name_of_entryOf? hentry ▸ name.plainName_text
    rw [CacheEntry.render_injective hplain (hname ▸ name.plainName_text) hrender] at hentry
    exact hentry
  · intro hentry
    exact ⟨entry, Option.mem_toList.2 hentry, rfl⟩

/-- A plain flag is in the list exactly if its name is to have that value. -/
theorem plain_mem_flagsOf_iff (name : CacheName) (value : String) :
    (CacheEntry.plain name.text value).render ∈ flagsOf values derived
      ↔ entryOf? values derived name = some (.plain name.text value) :=
  render_mem_flagsOf_iff rfl

theorem switch_mem_flagsOf_iff (name : CacheName) (on : Bool) :
    (CacheEntry.switch name.text on).render ∈ flagsOf values derived
      ↔ entryOf? values derived name = some (.switch name.text on) :=
  render_mem_flagsOf_iff rfl

/-- A name that is set on one condition is turned on in the flags exactly under
it. -/
theorem switch_mem_flagsOf_iff_of_ite {name : CacheName} {on : Bool}
    (hentry : entryOf? values derived name
      = if on then some (.switch name.text true) else none) :
    (CacheEntry.switch name.text true).render ∈ flagsOf values derived ↔ on = true := by
  rw [switch_mem_flagsOf_iff, hentry, Option.ite_none_right_eq_some, and_iff_left rfl]

/-- **Equal flags have equal entries**, name by name. -/
theorem entryOf?_eq_of_flagsOf_eq (h : flagsOf values derived = flagsOf values' derived')
    (name : CacheName) : entryOf? values derived name = entryOf? values' derived' name := by
  refine Option.ext fun entry => ?_
  constructor
  · intro hentry
    have hname := name_of_entryOf? hentry
    rw [← render_mem_flagsOf_iff hname, ← h]
    exact (render_mem_flagsOf_iff hname).2 hentry
  · intro hentry
    have hname := name_of_entryOf? hentry
    rw [← render_mem_flagsOf_iff hname, h]
    exact (render_mem_flagsOf_iff hname).2 hentry

/-! ## Variants that are on -/

/-- **The names that are set to whether a variant is on**, with the variant. -/
def switches : List (CacheName × String) :=
  [(.sharedLibs, "shared"), (.boundsChecks, "bounds_checks"),
    (.privilegeChecks, "privilege_checks"), (.enableTls, "enable_tls"), (.spy, "spy"),
    (.useHdf5, "hdf5"), (.useHwloc, "hwloc"), (.useLibdl, "libdl"), (.useOpenmp, "openmp"),
    (.usePapi, "papi"), (.usePython, "python"), (.useZlib, "zlib")]

/-- Each of these names is turned the way its variant is. -/
theorem entryOf?_switch : ∀ pair ∈ switches,
    entryOf? values derived pair.1
      = some (.switch pair.1.text (values.enabled pair.2)) := by
  simp only [switches, List.forall_mem_cons, List.not_mem_nil, IsEmpty.forall_iff, implies_true,
    and_true]
  and_intros <;> rfl

/-- **The names that are set only if a variant is on**, with the variant. -/
def marks : List (CacheName × String) :=
  [(.useCuda, "cuda"), (.gpuReductions, "cuda"), (.buildBindings, "bindings"),
    (.buildMarch, "native")]

/-- Each of these names has an entry exactly if its variant is on. -/
theorem isSome_entryOf?_mark : ∀ pair ∈ marks,
    (entryOf? values derived pair.1).isSome = values.enabled pair.2 := by
  simp only [marks, List.forall_mem_cons, List.not_mem_nil, IsEmpty.forall_iff, implies_true,
    and_true]
  and_intros <;> exact Bool.eq_iff_iff.2 Option.isSome_ite

/-- Plain entries of one name are equal only with equal values. -/
theorem CacheEntry.plain_inj {name first second : String} :
    plain name first = plain name second ↔ first = second := by
  simp [plain]

theorem CacheEntry.switch_inj {name : String} {first second : Bool} :
    switch name first = switch name second ↔ first = second := by
  rw [switch, switch, plain_inj]
  revert first second
  decide

/-! ## The transport layer

Five names speak of the transport layer. Each of them asks which one it is, and
at most one thing besides. -/

section Transport

open Derived (textOrUnset ofValues transportOf)

variable {cxx : Option String}

/-- The networks to build are GASNet-EX or MPI, by the network that was chosen, and
are left unsaid for any other. -/
theorem entryOf?_networks :
    entryOf? values (ofValues values cxx) .networks
      = if textOrUnset values "network" = "gasnet" then
          some (.plain CacheName.networks.text "gasnetex")
        else if textOrUnset values "network" = "mpi" then
          some (.plain CacheName.networks.text "mpi")
        else none := by
  unfold entryOf? ofValues transportOf
  dsimp only
  split_ifs <;> rfl

/-- Where GASNet is installed is said under the network `gasnet`, if it is known. -/
theorem entryOf?_gasnetRoot :
    entryOf? values (ofValues values cxx) .gasnetRoot
      = if textOrUnset values "network" = "gasnet" ∧ textOrUnset values "gasnet_root" ≠ unset then
          some (.plain CacheName.gasnetRoot.text (textOrUnset values "gasnet_root"))
        else none := by
  unfold entryOf? ofValues transportOf
  dsimp only
  split_ifs with hnetwork hroot <;> simp_all

/-- GASNet is embedded under the network `gasnet` if it is not known where one is
installed; under `mpi` nothing is said, and any other network turns it off. -/
theorem entryOf?_embedGasnet :
    entryOf? values (ofValues values cxx) .embedGasnet
      = if textOrUnset values "network" = "gasnet" then
          if textOrUnset values "gasnet_root" = unset then
            some (.switch CacheName.embedGasnet.text true)
          else none
        else if textOrUnset values "network" = "mpi" then none
        else some (.switch CacheName.embedGasnet.text false) := by
  unfold entryOf? ofValues transportOf
  dsimp only
  split_ifs <;> rfl

theorem entryOf?_gasnetConduit :
    entryOf? values (ofValues values cxx) .gasnetConduit
      = if textOrUnset values "network" = "gasnet" then
          some (.plain CacheName.gasnetConduit.text (textOrUnset values "conduit"))
        else none := by
  unfold entryOf? ofValues transportOf
  dsimp only
  split_ifs <;> rfl

/-- GASNet is configured for debugging under the network `gasnet` alone, if that is
asked for. -/
theorem entryOf?_gasnetConfigureArgs :
    entryOf? values (ofValues values cxx) .gasnetConfigureArgs
      = if textOrUnset values "network" = "gasnet" ∧ values.enabled "gasnet_debug" = true then
          some (.plain CacheName.gasnetConfigureArgs.text "--enable-debug")
        else none := by
  unfold entryOf? ofValues transportOf
  dsimp only
  cases values.enabled "gasnet_debug" <;> split_ifs <;> simp_all

end Transport

end BuildVariants
