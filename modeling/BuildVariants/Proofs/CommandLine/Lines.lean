import BuildVariants.Proofs.CommandLine.Agreement
import BuildVariants.Proofs.Environment
import BuildVariants.Proofs.Legion.Form

/-!
# Printed lines

`flags` prints a plan line by line: the commands that set the environment, if
they are asked for, and then the arguments of `cmake`. Whoever reads the lines
takes each of them for one argument.

Nothing is escaped on the way, so everything hangs on the texts that are
printed. Nearly all of them are fixed, or declared, or numerals
(`entryOf?_origin`). Two come from outside: the place of GASNet, which is the
path of some directory, and the C++ compiler of Kokkos. A path may hold a line
end, and neither the validator nor the quotes of the shell do anything about it.
So the lines can be read back exactly if these two texts stay on one line
(`flags_lines_iff`), and a directory with the right name adds an argument of its
own (`lines_forged`).
-/

namespace BuildVariants

open Text (OneLine oneLine_append_iff)

/-! ## Where the values of entries come from -/

/-- The values that do not depend on what is requested. -/
def fixedValues : List String :=
  ["ON", "OFF", "gasnetex", "mpi", "--enable-debug", "--allow-unsupported-compiler", "native"]

/-- **Where the value of an entry comes from.** -/
inductive Origin (values : Values) (derived : Derived) : String → Prop
  | fixed {text : String} : text ∈ fixedValues → Origin values derived text
  /-- The place where GASNet is installed. -/
  | root {root conduit : String} {debug : Bool} :
      derived.transport = .gasnet (.external root) conduit debug → Origin values derived root
  | conduit {source : GasnetSource} {conduit : String} {debug : Bool} :
      derived.transport = .gasnet source conduit debug → Origin values derived conduit
  | outputLevel : Origin values derived derived.outputLevel
  | cudaArch : Origin values derived ((values.text? "cuda_arch").getD "")
  | maxDims : Origin values derived (Text.Numeral.write derived.maxDims)
  | maxFields : Origin values derived (Text.Numeral.ofNat derived.maxFields.toNat)

theorem origin_switch {values : Values} {derived : Derived} (on : Bool) :
    Origin values derived (if on then "ON" else "OFF") := by
  cases on <;> exact .fixed (by decide)

/-- **Every value of an entry comes from one of these places.** -/
theorem entryOf?_origin {values : Values} {derived : Derived} {name : CacheName}
    {entry : CacheEntry} (h : entryOf? values derived name = some entry) :
    Origin values derived entry.value := by
  unfold entryOf? at h
  dsimp only at h
  repeat' split at h
  all_goals cases h
  all_goals first
    | exact origin_switch _
    | exact .fixed (by decide)
    | exact .root ‹_›
    | exact .conduit ‹_›
    | exact .outputLevel
    | exact .cudaArch
    | exact .maxDims
    | exact .maxFields

/-! ## Texts on one line -/

theorem oneLine_write (n : Int64) : OneLine (Text.Numeral.write n) := fun h =>
  absurd (Domain.not_isBlank_of_mem_write h) (by decide)

theorem oneLine_ofNat (n : Nat) : OneLine (Text.Numeral.ofNat n) := by
  intro h
  rw [Text.Numeral.ofNat, String.toList_ofList] at h
  exact absurd (Text.Numeral.isDigit_of_mem_digits h) (by decide)

theorem CacheName.oneLine_text (name : CacheName) : OneLine name.text := by
  cases name <;> decide

/-- An argument stays on one line if its value does. -/
theorem CacheEntry.oneLine_render_iff {entry : CacheEntry} (h : OneLine entry.name) :
    OneLine entry.render ↔ OneLine entry.value := by
  have hmarks : OneLine "-D" ∧ OneLine ":" ∧ OneLine "=" := by decide
  obtain ⟨name, type, value⟩ := entry
  cases type with
  | none => simp only [render, oneLine_append_iff, hmarks, h, true_and]
  | some type =>
    have hkeyword : OneLine type.keyword := by cases type; decide
    simp only [render, oneLine_append_iff, hmarks, hkeyword, h, true_and]

/-- Escaping the quotes in a text adds no line end and takes none away. -/
theorem Text.Shell.newline_mem_escapeQuotes_iff (cs : List Char) :
    '\n' ∈ escapeQuotes cs ↔ '\n' ∈ cs := by
  induction cs with
  | nil => rfl
  | cons c cs ih =>
    rw [escapeQuotes]
    split
    · next hquote => simp [hquote, ih]
    · simp [ih]

/-- Between quotes or not, a value stays on as many lines as it has. -/
theorem Text.Shell.oneLine_quote_iff {value : String} : OneLine (quote value) ↔ OneLine value := by
  unfold OneLine quote quoteChars
  rw [String.toList_ofList]
  split
  · rfl
  · simp [newline_mem_escapeQuotes_iff]

theorem oneLine_exportCommand_iff {name value : String} (h : OneLine name) :
    OneLine (exportCommand name value) ↔ OneLine value := by
  have hmarks : OneLine "export " ∧ OneLine "=" := by decide
  simp only [exportCommand, oneLine_append_iff, hmarks, h, Text.Shell.oneLine_quote_iff, true_and]

/-! ## Plans of Legion -/

namespace Legion

open Derived (ofValues textOrUnset transportOf)

variable {assignments : NameMap SuppliedValue} {values : Values} {cxx : Option String}

theorem conduit_of_transportOf {source : GasnetSource} {conduit : String} {debug : Bool}
    (h : transportOf values = .gasnet source conduit debug) :
    textOrUnset values "conduit" = conduit := by
  unfold transportOf at h
  dsimp only at h
  split at h
  · exact (Transport.gasnet.inj h).2.1
  · split at h <;> cases h

/-- A value that does not name the place of GASNet stays on one line. -/
theorem oneLine_of_origin (h : schema.Completes assignments values)
    (hroot : ∀ root conduit debug,
      transportOf values = .gasnet (.external root) conduit debug → OneLine root)
    {text : String} (horigin : Origin values (ofValues values cxx) text) : OneLine text := by
  cases horigin with
  | fixed hmem =>
    have hfixed : ∀ text ∈ fixedValues, OneLine text := by decide
    exact hfixed _ hmem
  | root htransport => exact hroot _ _ _ htransport
  | conduit htransport =>
    obtain ⟨conduit, hmem, hconduit⟩ := exists_name h (show schema.find? "conduit" = _ from rfl)
    have hdeclared : ∀ conduit ∈ conduits ++ ["none"], OneLine conduit := by decide
    rw [← conduit_of_transportOf htransport, textOrUnset_of_get? hconduit]
    exact hdeclared conduit hmem
  | outputLevel =>
    obtain ⟨level, hmem, hlevel⟩ := exists_name h (show schema.find? "output_level" = _ from rfl)
    have hdeclared : ∀ level ∈ outputLevels, OneLine (Text.upper level) := by decide +kernel
    show OneLine (Text.upper (textOrUnset values "output_level"))
    rw [textOrUnset_of_get? hlevel]
    exact hdeclared level hmem
  | cudaArch =>
    obtain ⟨arch, hmem, harch⟩ := exists_name h (show schema.find? "cuda_arch" = _ from rfl)
    have hdeclared : ∀ arch ∈ cudaArchitectures, OneLine arch := by decide
    rw [Values.text?, harch]
    exact hdeclared arch hmem
  | maxDims => exact oneLine_write _
  | maxFields => exact oneLine_ofNat _

/-- **The flags stay on one line each** exactly if the place of GASNet does. -/
theorem oneLine_flagsOf_iff (h : schema.Completes assignments values) :
    (∀ flag ∈ flagsOf values (ofValues values cxx), OneLine flag)
      ↔ ∀ root conduit debug,
          transportOf values = .gasnet (.external root) conduit debug → OneLine root := by
  constructor
  · intro hflags root conduit debug htransport
    have hentry : entryOf? values (ofValues values cxx) .gasnetRoot
        = some (.plain CacheName.gasnetRoot.text root) := by
      simp only [entryOf?, ofValues, htransport]
    have hrender := hflags _ ((plain_mem_flagsOf_iff .gasnetRoot root).2 hentry)
    exact (CacheEntry.oneLine_render_iff (CacheName.oneLine_text _)).1 hrender
  · intro hroot flag hflag
    obtain ⟨entry, hentry, rfl⟩ := List.mem_map.1 hflag
    rw [entriesOf_eq] at hentry
    obtain ⟨name, _, hsome⟩ := List.mem_filterMap.1 hentry
    have hname : OneLine entry.name := name_of_entryOf? hsome ▸ name.oneLine_text
    exact (CacheEntry.oneLine_render_iff hname).2
      (oneLine_of_origin h hroot (entryOf?_origin hsome))

/-- **The texts from outside stay on one line**: the place of GASNet, and with the
export commands the compiler of Kokkos. -/
def Unbroken (exportEnv : Bool) (derived : Derived) : Prop :=
  (∀ root conduit debug, derived.transport = .gasnet (.external root) conduit debug → OneLine root)
    ∧ (exportEnv = true → ∀ cxx ∈ derived.kokkosCxx, OneLine cxx)

/-- **The lines of a plan stay on one line each** exactly if the texts from outside
do. -/
theorem oneLine_plan_iff {files : Files} {spec : Spec} {plan : BuildPlan}
    (hplan : package.planner.plan files spec = .ok plan) (exportEnv : Bool) :
    (∀ line ∈ (if exportEnv then plan.exports else []) ++ plan.flags, OneLine line)
      ↔ Unbroken exportEnv plan.derived := by
  obtain ⟨values, derived, hcleared, hderived, rfl⟩ := Planner.plan_eq_ok_iff.1 hplan
  obtain ⟨hvalues, _, _⟩ := Derived.eq_of_ofResolved hderived
  have hflags : (∀ flag ∈ flagsOf values derived, OneLine flag)
      ↔ ∀ root conduit debug,
          derived.transport = .gasnet (.external root) conduit debug → OneLine root := by
    rw [hvalues]
    exact oneLine_flagsOf_iff hcleared.completes
  have hexports : (∀ line ∈ (BuildPlan.of ⟨spec, values⟩ derived
        (package.planner.active ⟨spec, values⟩)).exports, OneLine line)
      ↔ ∀ cxx ∈ derived.kokkosCxx, OneLine cxx := by
    rw [BuildPlan.exports, env_of]
    have hname : OneLine "KOKKOS_CXX_COMPILER" := by decide
    cases derived.kokkosCxx with
    | none => simp
    | some cxx => simpa using oneLine_exportCommand_iff hname
  rw [List.forall_mem_append, Unbroken, and_comm]
  refine and_congr hflags ?_
  cases exportEnv with
  | false => simp
  | true => exact hexports.trans ⟨fun h _ => h, fun h => h rfl⟩

end Legion

namespace CommandLine

section Flags

variable {surroundings : Surroundings} {arguments : List String} {invocation : Invocation}
  {spec : SpecArguments} {exportEnv : Bool} {asked : Request}

/-- What `flags` prints where it prints lines. -/
theorem exists_output_flags
    (hparse : parse surroundings.environment arguments = .ok invocation)
    (hcommand : invocation.command = .flags spec false exportEnv)
    (hasked : request surroundings invocation.config spec = .ok asked)
    (hlines : asked.config.format = .lines)
    (hcode : (run surroundings arguments).code = 0) :
    ∃ plan, Legion.package.planner.plan surroundings.files asked.spec = .ok plan
      ∧ (run surroundings arguments).output
        = unlines ((if exportEnv then plan.exports else []) ++ plan.flags) := by
  have hrun : run surroundings arguments = onRequest surroundings invocation.config spec
      (flags surroundings.files false exportEnv) := by
    simp only [run, hparse, perform, hcommand]
  rw [hrun, code_onRequest_iff] at hcode
  obtain ⟨other, printed, hother, hdone⟩ := hcode
  obtain rfl := Except.ok.inj (hasked.symm.trans hother)
  obtain ⟨plan, hplan, hprinted⟩ := Data.map_eq_ok_iff.1 hdone
  refine ⟨plan, hplan, ?_⟩
  rw [hrun, output_onRequest hasked hdone, ← hprinted, if_neg Bool.false_ne_true, hlines]
  cases exportEnv <;> rfl

/-- **The lines that `flags` prints can be read back** exactly if the texts from
outside stay on one line: cut at every line end, they are the export commands, if
they are asked for, and then the flags of the plan, one on each line, and nothing
but the empty rest behind the last of them. -/
theorem flags_lines_iff
    (hparse : parse surroundings.environment arguments = .ok invocation)
    (hcommand : invocation.command = .flags spec false exportEnv)
    (hasked : request surroundings invocation.config spec = .ok asked)
    (hlines : asked.config.format = .lines)
    (hcode : (run surroundings arguments).code = 0) :
    ∃ plan, Legion.package.planner.plan surroundings.files asked.spec = .ok plan
      ∧ ((Text.pieces '\n' (run surroundings arguments).output.toList).map String.ofList
          = (if exportEnv then plan.exports else []) ++ plan.flags ++ [""]
        ↔ Legion.Unbroken exportEnv plan.derived) := by
  obtain ⟨plan, hplan, houtput⟩ := exists_output_flags hparse hcommand hasked hlines hcode
  refine ⟨plan, hplan, ?_⟩
  rw [houtput, Text.pieces_unlines_iff, Legion.oneLine_plan_iff hplan]

end Flags

/-- What can be evaluated of a request and its plan. -/
theorem exists_plan_of_test (surroundings : Surroundings) (spec : SpecArguments)
    (test : Request → BuildPlan → Bool)
    (h : ((request surroundings none spec).toOption.bind fun asked =>
        (Legion.package.planner.plan surroundings.files asked.spec).toOption.map (test asked))
      = some true) :
    ∃ asked plan, request surroundings none spec = .ok asked
      ∧ Legion.package.planner.plan surroundings.files asked.spec = .ok plan
      ∧ test asked plan = true := by
  cases hasked : request surroundings none spec with
  | error failure =>
    rw [hasked] at h
    cases h
  | ok asked =>
    rw [hasked] at h
    cases hplan : Legion.package.planner.plan surroundings.files asked.spec with
    | error error =>
      simp only [Except.toOption, Option.bind_some, hplan] at h
      cases h
    | ok plan =>
      simp only [Except.toOption, Option.bind_some, hplan] at h
      exact ⟨asked, plan, rfl, hplan, Option.some.inj h⟩

/-- A directory for GASNet and a spec file that says where the compiler of Kokkos
is, with blanks and a quote in their paths. -/
def spacedPlace : Surroundings where
  files := .ofList [("/opt/gas net", .ok .directory), ("spec.toml", .ok (.file
    "[variants]\nkokkos = true\n\n[dependencies.kokkos]\ncxx = \"/opt/it's/c++\"\n".toUTF8))]
  home := none
  directory := "/"
  environment := none

/-- Blanks and quotes do not break a line. -/
theorem lines_spaced :
    let tokens := ["network=gasnet", "conduit=mpi", "gasnet_root=/opt/gas net"]
    let outcome := run spacedPlace (["flags", "--export-env", "spec.toml"]
      ++ tokens.flatMap fun token => ["-v", token])
    outcome.code = 0
      ∧ ∃ asked plan, request spacedPlace none ⟨some "spec.toml", tokens⟩ = .ok asked
        ∧ Legion.package.planner.plan spacedPlace.files asked.spec = .ok plan
        ∧ plan.exports = ["export KOKKOS_CXX_COMPILER='/opt/it'\\''s/c++'"]
        ∧ (Text.pieces '\n' outcome.output.toList).map String.ofList
          = plan.exports ++ plan.flags ++ [""] := by
  intro tokens outcome
  have hcode : outcome.code = 0 := by decide +kernel
  obtain ⟨asked, plan, hasked, hplan, htest⟩ := exists_plan_of_test spacedPlace
    ⟨some "spec.toml", tokens⟩
    (fun asked plan => asked.config.format = .lines
      ∧ plan.exports = ["export KOKKOS_CXX_COMPILER='/opt/it'\\''s/c++'"]
      ∧ plan.derived.transport = .gasnet (.external "/opt/gas net") "mpi" false
      ∧ plan.derived.kokkosCxx = some "/opt/it's/c++") (by decide +kernel)
  obtain ⟨hformat, hexports, htransport, hcxx⟩ := of_decide_eq_true htest
  have hparse : parse spacedPlace.environment (["flags", "--export-env", "spec.toml"]
        ++ tokens.flatMap fun token => ["-v", token])
      = .ok ⟨.flags ⟨some "spec.toml", tokens⟩ false true, false, false, none⟩ := by
    decide +kernel
  obtain ⟨other, hother, hlines⟩ := flags_lines_iff hparse rfl hasked hformat hcode
  obtain rfl := Except.ok.inj (hplan.symm.trans hother)
  have hunbroken : Legion.Unbroken true plan.derived := by
    refine ⟨fun root conduit debug h => ?_, fun _ cxx h => ?_⟩
    · obtain ⟨⟨⟩, _, _⟩ := Transport.gasnet.inj (htransport.symm.trans h)
      decide
    · obtain rfl := Option.some.inj (hcxx.symm.trans h)
      decide
  exact ⟨hcode, asked, plan, hasked, hplan, hexports, hlines.2 hunbroken⟩

/-- The name of a directory that goes over two lines, of which the second reads
like an argument. -/
def forgedRoot : String := "gasnet\n-DLegion_SPY=ON"

/-- A place with that directory and nothing else. -/
def forgedPlace : Surroundings := ⟨.ofList [(forgedRoot, .ok .directory)], none, "/", none⟩

/-- **A directory can forge an argument**: its name is printed as two lines, and the
second is none of the flags. -/
theorem lines_forged :
    let tokens := ["network=gasnet", "conduit=mpi", "gasnet_root=" ++ forgedRoot]
    let outcome := run forgedPlace ("flags" :: tokens.flatMap fun token => ["-v", token])
    let lines := (Text.pieces '\n' outcome.output.toList).map String.ofList
    outcome.code = 0
      ∧ ∃ asked plan, request forgedPlace none ⟨none, tokens⟩ = .ok asked
        ∧ asked.config.format = .lines
        ∧ Legion.package.planner.plan forgedPlace.files asked.spec = .ok plan
        ∧ "-DGASNet_ROOT_DIR=" ++ forgedRoot ∈ plan.flags
        ∧ "-DLegion_SPY=ON" ∈ lines ∧ "-DLegion_SPY=ON" ∉ plan.flags
        ∧ lines ≠ plan.flags ++ [""] := by
  intro tokens outcome lines
  have hparse : parse forgedPlace.environment ("flags" :: tokens.flatMap fun token => ["-v", token])
      = .ok ⟨.flags ⟨none, tokens⟩ false false, false, false, none⟩ := by
    decide +kernel
  have hcode : outcome.code = 0 := by decide +kernel
  obtain ⟨asked, plan, hasked, hplan, htest⟩ := exists_plan_of_test forgedPlace ⟨none, tokens⟩
    (fun asked plan => asked.config.format = .lines
      ∧ "-DGASNet_ROOT_DIR=" ++ forgedRoot ∈ plan.flags ∧ "-DLegion_SPY=ON" ∉ plan.flags)
    (by decide +kernel)
  obtain ⟨hformat, hroot, hspy⟩ := of_decide_eq_true htest
  obtain ⟨other, hother, houtput⟩ := exists_output_flags hparse rfl hasked hformat hcode
  obtain rfl := Except.ok.inj (hplan.symm.trans hother)
  have hforged : "-DLegion_SPY=ON" ∈ lines := by
    have hpiece : "-DLegion_SPY=ON".toList
        ∈ Text.pieces '\n' ("-DGASNet_ROOT_DIR=" ++ forgedRoot).toList := by decide
    refine List.mem_map.2 ⟨_, ?_, String.ofList_toList⟩
    show _ ∈ Text.pieces '\n' (run forgedPlace _).output.toList
    rw [houtput, Text.pieces_unlines_eq]
    exact List.mem_append_left _ (List.mem_flatMap.2 ⟨_, hroot, hpiece⟩)
  refine ⟨hcode, asked, plan, hasked, hformat, hplan, hroot, hforged, hspy, fun hsame => ?_⟩
  rw [hsame, List.mem_append] at hforged
  exact hforged.elim hspy (by decide)

end CommandLine

end BuildVariants
