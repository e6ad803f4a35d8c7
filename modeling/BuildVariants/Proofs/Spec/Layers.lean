import BuildVariants.Proofs.Data.Reading
import BuildVariants.Proofs.Schema
import BuildVariants.Spec.File

/-!
# What the layers of a request come to

A spec is assembled from four layers: the tokens of the command line, the spec
file, the configuration, and what is built in. The code goes through them in
four ways – one token after the other, one map laid over another, one option
before another, and a text that is only read if it is needed – and they come to
one law: what the highest layer says that speaks of a thing counts
(`SpecFile.Layered`). There is one such spec, and it is what is assembled,
unless something that is needed cannot be read (`SpecFile.Legible`). Hence
tokens for different variants do not get in each other's way, whatever their
order, and what is hidden by a higher layer does not count at all
(`assemble_layers`).
-/

namespace BuildVariants

/-! ## Tokens -/

/-- **What a token says of a variant**: the value it assigns, if it names the
variant. -/
def tokenValue? (name token : String) : Option SuppliedValue :=
  match parseToken token with
  | .ok (named, value) => if named = name then some value else none
  | .error _ => none

theorem tokenValue?_of_parseToken {token named : String} {value : SuppliedValue}
    (h : parseToken token = .ok (named, value)) (name : String) :
    tokenValue? name token = if named = name then some value else none := by
  unfold tokenValue?
  rw [h]

/-- **The last word of some tokens on a variant**: the value that the last
token assigns of those that name it. -/
def lastWord? (name : String) (tokens : List String) : Option SuppliedValue :=
  (tokens.filterMap (tokenValue? name)).getLast?

theorem lastWord?_cons (name token : String) (tokens : List String) :
    lastWord? name (token :: tokens) = (lastWord? name tokens).or (tokenValue? name token) := by
  unfold lastWord?
  rw [List.filterMap_cons]
  cases tokenValue? name token with
  | none => rw [Option.or_none]
  | some value =>
    show (value :: tokens.filterMap (tokenValue? name)).getLast? = _
    rw [List.getLast?_cons]
    cases (tokens.filterMap (tokenValue? name)).getLast? <;> rfl

/-- A token that does not name a variant has no part in the last word on it. -/
theorem lastWord?_remove {name token : String} (h : tokenValue? name token = none)
    (before after : List String) :
    lastWord? name (before ++ token :: after) = lastWord? name (before ++ after) := by
  unfold lastWord?
  rw [List.filterMap_append, List.filterMap_append, List.filterMap_cons_none h]

/-- **Some tokens can all be read.** -/
def TokensParse (tokens : List String) : Prop :=
  ∀ token ∈ tokens, ∃ name value, parseToken token = .ok (name, value)

theorem tokensParse_cons_iff {token : String} {tokens : List String} :
    TokensParse (token :: tokens)
      ↔ (∃ name value, parseToken token = .ok (name, value)) ∧ TokensParse tokens :=
  List.forall_mem_cons

namespace Spec

/-- Assigning the variants of tokens succeeds if all of them can be read. -/
theorem exists_assignTokens_iff {tokens : List String} (spec : Spec) :
    (∃ assigned, spec.assignTokens tokens = .ok assigned) ↔ TokensParse tokens := by
  induction tokens generalizing spec with
  | nil => exact iff_of_true ⟨spec, rfl⟩ (List.forall_mem_nil _)
  | cons token rest ih =>
    rw [tokensParse_cons_iff, assignTokens]
    cases hparse : parseToken token with
    | error error =>
      refine iff_of_false (fun ⟨_, h⟩ => by cases h) (fun h => ?_)
      obtain ⟨_, _, h⟩ := h.1
      cases h
    | ok entry =>
      obtain ⟨name, value⟩ := entry
      refine (ih (spec.assign name value)).trans (and_iff_right ⟨name, value, rfl⟩).symm

/-- **The last word of the tokens counts**, and where they have none what was
assigned before. -/
theorem get?_assignTokens {tokens : List String} {spec assigned : Spec}
    (h : spec.assignTokens tokens = .ok assigned) (name : String) :
    assigned.variants.get? name = (lastWord? name tokens).or (spec.variants.get? name) := by
  induction tokens generalizing spec with
  | nil =>
    obtain rfl := Except.ok.inj h
    rfl
  | cons token rest ih =>
    rw [assignTokens] at h
    split at h
    · cases h
    · next named value hparse =>
      rw [ih h, lastWord?_cons, tokenValue?_of_parseToken hparse, Option.or_assoc]
      congr 1
      show (spec.variants.insert named value).get? name = _
      rw [NameMap.get?_insert]
      by_cases hname : named = name
      · rw [if_pos hname, if_pos hname.symm, Option.some_or]
      · rw [if_neg hname, if_neg (Ne.symm hname), Option.none_or]

/-- Tokens assign variants and touch nothing else. -/
theorem eq_of_assignTokens {tokens : List String} {spec assigned : Spec}
    (h : spec.assignTokens tokens = .ok assigned) :
    assigned = { spec with variants := assigned.variants } := by
  induction tokens generalizing spec with
  | nil =>
    obtain rfl := Except.ok.inj h
    rfl
  | cons token rest ih =>
    rw [assignTokens] at h
    split at h
    · cases h
    · have hrest := ih h
      exact hrest

end Spec

/-! ## Falling back -/

/-- A choice that falls back from what is given to what is written, which has
to be read, and from there to what is built in. -/
def fallBack {ε α : Type} (given : Option α) (written : Option String)
    (read : String → Except ε α) (builtIn : α) : Except ε α :=
  match given, written with
  | some value, _ => .ok value
  | none, some text => read text
  | none, none => .ok builtIn

/-- **What is written only counts if nothing is given**, and only then does it
matter whether it can be read. -/
theorem fallBack_eq_ok_iff {ε α : Type} {given : Option α} {written : Option String}
    {read : String → Except ε α} {builtIn value : α} :
    fallBack given written read builtIn = .ok value
      ↔ (given ≠ none ∨ ∀ text, written = some text → ∃ v, read text = .ok v)
        ∧ value = (given.or (written.bind fun text => (read text).toOption)).getD builtIn := by
  unfold fallBack
  cases given with
  | some chosen => simp [eq_comm]
  | none =>
    cases written with
    | none => simp [eq_comm]
    | some text => cases hread : read text <;> simp [hread, Except.toOption, eq_comm]

namespace SpecFile

theorem chooseCompiler_eq_fallBack (file : SpecFile) (config : Config) :
    file.chooseCompiler config
      = fallBack file.compiler config.defaults.compiler
          (fun text => (Compiler.parse text).mapError .compiler) .gcc := by
  unfold chooseCompiler fallBack
  cases file.compiler <;> cases config.defaults.compiler <;> rfl

/-- The build type of a name, or what is told of a name that is none. -/
def readBuildType (name : String) : Except AssemblyError BuildType :=
  match BuildType.ofName? name with
  | some buildType => .ok buildType
  | none => .error (.buildType name)

theorem chooseBuildType_eq_fallBack (file : SpecFile) (config : Config) :
    file.chooseBuildType config
      = fallBack file.buildType config.defaults.buildType readBuildType .relWithDebInfo := by
  unfold chooseBuildType fallBack
  cases file.buildType <;> cases config.defaults.buildType <;> rfl

/-- **What is needed of the layers can be read**: every token, and the
configuration's compiler and build type unless the file gives its own. -/
structure Legible (file : SpecFile) (config : Config) (tokens : List String) : Prop where
  tokens : TokensParse tokens
  compiler : file.compiler ≠ none ∨ ∀ text, config.defaults.compiler = some text →
    ∃ compiler, Compiler.parse text = .ok compiler
  buildType : file.buildType ≠ none ∨ ∀ name, config.defaults.buildType = some name →
    ∃ buildType, BuildType.ofName? name = some buildType

/-- **A spec is what its layers say**: the tokens count before the file, the
file before the configuration, and this before what is built in. Dependencies
come from the file only. -/
structure Layered (file : SpecFile) (config : Config) (tokens : List String) (spec : Spec) :
    Prop where
  variants : ∀ name, spec.variants.get? name
    = ((lastWord? name tokens).or (file.variants.get? name)).or (config.variants.get? name)
  version : spec.version = (file.version.or config.defaults.version).getD "stable"
  compiler : spec.compiler = (file.compiler.or
    (config.defaults.compiler.bind fun text => (Compiler.parse text).toOption)).getD .gcc
  buildType : spec.buildType
    = (file.buildType.or (config.defaults.buildType.bind BuildType.ofName?)).getD .relWithDebInfo
  target : spec.target = file.target.or config.defaults.target
  dependencies : spec.dependencies = file.dependencies

/-- The layers come to one spec only. -/
theorem Layered.unique {file : SpecFile} {config : Config} {tokens : List String}
    {first second : Spec} (hf : file.Layered config tokens first)
    (hs : file.Layered config tokens second) : first = second := by
  have hvariants : first.variants = second.variants :=
    NameMap.ext_get? fun name => (hf.variants name).trans (hs.variants name).symm
  obtain ⟨version, compiler, buildType, target, variants, dependencies⟩ := first
  obtain ⟨_, rfl, rfl, rfl, rfl, rfl⟩ := hf
  obtain ⟨_, hversion, hcompiler, hbuildType, htarget, hdependencies⟩ := hs
  obtain ⟨_, _, _, _, _, _⟩ := second
  subst hversion hcompiler hbuildType htarget hdependencies hvariants
  rfl

/-- The choice of a compiler succeeds if one is given, or none is written that
cannot be read. -/
theorem chooseCompiler_eq_ok_iff {file : SpecFile} {config : Config} {compiler : Compiler} :
    file.chooseCompiler config = .ok compiler
      ↔ (file.compiler ≠ none ∨ ∀ text, config.defaults.compiler = some text →
          ∃ parsed, Compiler.parse text = .ok parsed)
        ∧ compiler = (file.compiler.or
            (config.defaults.compiler.bind fun text => (Compiler.parse text).toOption)).getD
              .gcc := by
  have hread (text : String) (parsed : Compiler) :
      (Compiler.parse text).mapError AssemblyError.compiler = .ok parsed
        ↔ Compiler.parse text = .ok parsed := by
    cases Compiler.parse text <;> simp [Except.mapError]
  have hoption (text : String) :
      ((Compiler.parse text).mapError AssemblyError.compiler).toOption
        = (Compiler.parse text).toOption := by
    cases Compiler.parse text <;> rfl
  rw [chooseCompiler_eq_fallBack, fallBack_eq_ok_iff]
  simp only [hread, hoption]

/-- The choice of a build type succeeds if one is given, or none is written
that is no build type. -/
theorem chooseBuildType_eq_ok_iff {file : SpecFile} {config : Config} {buildType : BuildType} :
    file.chooseBuildType config = .ok buildType
      ↔ (file.buildType ≠ none ∨ ∀ name, config.defaults.buildType = some name →
          ∃ named, BuildType.ofName? name = some named)
        ∧ buildType = (file.buildType.or
            (config.defaults.buildType.bind BuildType.ofName?)).getD .relWithDebInfo := by
  have hread (name : String) (named : BuildType) :
      readBuildType name = .ok named ↔ BuildType.ofName? name = some named := by
    unfold readBuildType
    cases BuildType.ofName? name <;> simp
  have hoption (name : String) : (readBuildType name).toOption = BuildType.ofName? name := by
    unfold readBuildType
    cases BuildType.ofName? name <;> rfl
  rw [chooseBuildType_eq_fallBack, fallBack_eq_ok_iff]
  simp only [hread, hoption]

/-- Without tokens the spec is what the file and the configuration say. -/
theorem layered_of_toSpec {file : SpecFile} {config : Config} {spec : Spec}
    (h : file.toSpec config = .ok spec) :
    file.Legible config [] ∧ file.Layered config [] spec := by
  unfold toSpec at h
  split at h
  · cases h
  · next compiler hcompiler =>
    split at h
    · cases h
    · next buildType hbuildType =>
      obtain rfl := Except.ok.inj h
      rw [chooseCompiler_eq_ok_iff] at hcompiler
      rw [chooseBuildType_eq_ok_iff] at hbuildType
      refine ⟨⟨List.forall_mem_nil _, hcompiler.1, hbuildType.1⟩, ?_⟩
      refine ⟨fun name => ?_, rfl, hcompiler.2, hbuildType.2, rfl, rfl⟩
      exact NameMap.get?_overlay config.variants file.variants name

/-- The file and the configuration make a spec if what is needed of them can be
read. -/
theorem exists_toSpec {file : SpecFile} {config : Config} {tokens : List String}
    (h : file.Legible config tokens) : ∃ spec, file.toSpec config = .ok spec := by
  unfold toSpec
  rw [chooseCompiler_eq_ok_iff.2 ⟨h.compiler, rfl⟩]
  rw [chooseBuildType_eq_ok_iff.2 ⟨h.buildType, rfl⟩]
  exact ⟨_, rfl⟩

/-- **The file of a request**: the spec file at its path, or the file that says
nothing if it has no path. -/
inductive Given (files : Files) : Option String → SpecFile → Prop
  | nothing : Given files none .empty
  | loaded {path : String} {file : SpecFile} : load files path = .ok file →
      Given files (some path) file

end SpecFile

/-! ## All layers together -/

namespace Spec

open SpecFile (Given Legible Layered)

section Assembly

variable {files : Files} {path : Option String} {file : SpecFile} {config : Config}
  {tokens : List String} {spec : Spec}

theorem assemble_of_given (h : Given files path file) (config : Config) (tokens : List String) :
    assemble files path tokens config
      = match file.toSpec config with
        | .error error => .error error
        | .ok spec => (spec.assignTokens tokens).mapError .token := by
  unfold assemble
  cases h with
  | nothing => rfl
  | loaded hload =>
    dsimp only [Option.elim]
    generalize SpecFile.load files _ = loaded at hload ⊢
    subst hload
    rfl

/-- Tokens are a layer over what was there before. -/
theorem layered_of_assignTokens {base : Spec} (hbase : file.Layered config [] base)
    (h : base.assignTokens tokens = .ok spec) : file.Layered config tokens spec := by
  have hsame := eq_of_assignTokens h
  refine ⟨fun name => ?_, ?_, ?_, ?_, ?_, ?_⟩
  · have hnone : lastWord? name [] = none := rfl
    rw [get?_assignTokens h, hbase.variants, hnone, Option.none_or, Option.or_assoc]
  · rw [hsame]
    exact hbase.version
  · rw [hsame]
    exact hbase.compiler
  · rw [hsame]
    exact hbase.buildType
  · rw [hsame]
    exact hbase.target
  · rw [hsame]
    exact hbase.dependencies

/-- A spec that is assembled is what the layers say. -/
theorem layered_of_assemble (hgiven : Given files path file)
    (h : assemble files path tokens config = .ok spec) :
    file.Legible config tokens ∧ file.Layered config tokens spec := by
  rw [assemble_of_given hgiven] at h
  split at h
  · cases h
  · next base hbase =>
    obtain ⟨hlegible, hlayered⟩ := SpecFile.layered_of_toSpec hbase
    cases hassign : base.assignTokens tokens with
    | error error =>
      rw [hassign] at h
      cases h
    | ok assigned =>
      rw [hassign] at h
      obtain rfl := Except.ok.inj h
      have hparse := (exists_assignTokens_iff base).1 ⟨assigned, hassign⟩
      exact ⟨⟨hparse, hlegible.compiler, hlegible.buildType⟩,
        layered_of_assignTokens hlayered hassign⟩

/-- A spec is assembled if what is needed of the layers can be read. -/
theorem exists_assemble (hgiven : Given files path file) (h : file.Legible config tokens) :
    ∃ spec, assemble files path tokens config = .ok spec := by
  obtain ⟨base, hbase⟩ := SpecFile.exists_toSpec h
  obtain ⟨spec, hassign⟩ := (exists_assignTokens_iff base).2 h.tokens
  refine ⟨spec, ?_⟩
  rw [assemble_of_given hgiven, hbase]
  dsimp only
  rw [hassign]
  rfl

/-- **What is assembled is what the layers say**, if what is needed of them can
be read. -/
theorem assemble_eq_ok_iff (hgiven : Given files path file) :
    assemble files path tokens config = .ok spec
      ↔ file.Legible config tokens ∧ file.Layered config tokens spec := by
  refine ⟨layered_of_assemble hgiven, fun ⟨hlegible, hlayered⟩ => ?_⟩
  obtain ⟨assembled, h⟩ := exists_assemble hgiven hlegible
  rw [h, (layered_of_assemble hgiven h).2.unique hlayered]

/-- Tokens that say the same of each variant in the same order make the same
spec. -/
theorem assemble_rearranged (hgiven : Given files path file) {others : List String}
    (hperm : others.Perm tokens)
    (hsame : ∀ name, others.filterMap (tokenValue? name) = tokens.filterMap (tokenValue? name))
    (h : assemble files path tokens config = .ok spec) :
    assemble files path others config = .ok spec := by
  obtain ⟨hlegible, hlayered⟩ := (assemble_eq_ok_iff hgiven).1 h
  have hlast (name : String) : lastWord? name others = lastWord? name tokens := by
    unfold lastWord?
    rw [hsame]
  refine (assemble_eq_ok_iff hgiven).2 ⟨⟨fun token hmem => ?_, hlegible.compiler,
    hlegible.buildType⟩, { hlayered with variants := fun name => ?_ }⟩
  · exact hlegible.tokens token (hperm.mem_iff.1 hmem)
  · rw [hlast]
    exact hlayered.variants name

/-- Without one of its tokens a request differs in what that token names. -/
theorem assemble_without (hgiven : Given files path file) {before after : List String}
    {token : String} (h : assemble files path (before ++ token :: after) config = .ok spec) :
    ∃ other, assemble files path (before ++ after) config = .ok other
      ∧ spec = { other with variants := spec.variants }
      ∧ ∀ name, tokenValue? name token = none →
          spec.variants.get? name = other.variants.get? name := by
  obtain ⟨hlegible, hlayered⟩ := (assemble_eq_ok_iff hgiven).1 h
  have hfewer : file.Legible config (before ++ after) := by
    refine ⟨fun other hmem => hlegible.tokens other ?_, hlegible.compiler, hlegible.buildType⟩
    rw [List.mem_append] at hmem ⊢
    exact hmem.imp_right (List.mem_cons_of_mem token)
  obtain ⟨other, hother⟩ := exists_assemble hgiven hfewer
  have hfields := (layered_of_assemble hgiven hother).2
  refine ⟨other, hother, ?_, fun name hnone => ?_⟩
  · refine hlayered.unique ⟨hlayered.variants, hfields.version, hfields.compiler,
      hfields.buildType, hfields.target, hfields.dependencies⟩
  · rw [hlayered.variants, hfields.variants, lastWord?_remove hnone]

/-- **A configuration's compiler that the file hides does not count**, and need
not be one. -/
theorem assemble_hidden_compiler (hgiven : Given files path file) (hhidden : file.compiler ≠ none)
    (text : Option String) :
    assemble files path tokens { config with defaults := { config.defaults with compiler := text } }
      = assemble files path tokens config := by
  rw [assemble_of_given hgiven, assemble_of_given hgiven]
  obtain ⟨compiler, hcompiler⟩ := Option.ne_none_iff_exists'.1 hhidden
  unfold SpecFile.toSpec SpecFile.chooseCompiler
  rw [hcompiler]
  rfl

/-- A configuration's build type that the file hides does not count. -/
theorem assemble_hidden_buildType (hgiven : Given files path file)
    (hhidden : file.buildType ≠ none) (name : Option String) :
    assemble files path tokens
        { config with defaults := { config.defaults with buildType := name } }
      = assemble files path tokens config := by
  rw [assemble_of_given hgiven, assemble_of_given hgiven]
  obtain ⟨buildType, hbuildType⟩ := Option.ne_none_iff_exists'.1 hhidden
  unfold SpecFile.toSpec SpecFile.chooseBuildType
  rw [hbuildType]
  rfl

/-- **A request comes to what its layers say, and to nothing else.** It fails
only for a token, or for a compiler or build type of the configuration that the
file leaves to it; what the file hides may be malformed. On every variant the
last token that names it counts before the file and the file before the
configuration, and where no layer speaks a schema fills in its default. A token
bears on the variant it names only, and tokens can be rearranged as long as
those for one variant keep their order. -/
theorem assemble_layers (hgiven : Given files path file) (config : Config)
    (tokens : List String) :
    ((∃ spec, assemble files path tokens config = .ok spec) ↔ file.Legible config tokens)
    ∧ (∀ spec, assemble files path tokens config = .ok spec →
        file.Layered config tokens spec
        ∧ (∀ schema checked resolved, spec.resolve schema checked = .ok resolved →
            ∀ name variant, schema.Declares name variant →
              lastWord? name tokens = none → file.variants.get? name = none →
              config.variants.get? name = none →
              resolved.values.get? name = some variant.default)
        ∧ ∀ others, others.Perm tokens →
            (∀ name, others.filterMap (tokenValue? name) = tokens.filterMap (tokenValue? name)) →
            assemble files path others config = .ok spec)
    ∧ (∀ before token after spec, tokens = before ++ token :: after →
        assemble files path tokens config = .ok spec →
        ∃ other, assemble files path (before ++ after) config = .ok other
          ∧ spec = { other with variants := spec.variants }
          ∧ ∀ name, tokenValue? name token = none →
              spec.variants.get? name = other.variants.get? name)
    ∧ (file.compiler ≠ none → ∀ text,
        assemble files path tokens
            { config with defaults := { config.defaults with compiler := text } }
          = assemble files path tokens config)
    ∧ (file.buildType ≠ none → ∀ name,
        assemble files path tokens
            { config with defaults := { config.defaults with buildType := name } }
          = assemble files path tokens config) := by
  refine ⟨⟨?_, exists_assemble hgiven⟩, fun spec h => ⟨?_, ?_, ?_⟩, ?_, ?_, ?_⟩
  · rintro ⟨spec, h⟩
    exact (layered_of_assemble hgiven h).1
  · exact (layered_of_assemble hgiven h).2
  · intro schema checked resolved hresolve name variant hdeclares htokens hfile hconfig
    obtain ⟨values, hvalues, rfl⟩ := Data.map_eq_ok_iff.1 hresolve
    have hcompletes := Schema.completes_of_resolve hvalues
    refine hcompletes.defaulted name variant ?_ hdeclares
    rw [(layered_of_assemble hgiven h).2.variants, htokens, hfile, hconfig]
    rfl
  · intro others hperm hsame
    exact assemble_rearranged hgiven hperm hsame h
  · rintro before token after spec rfl h
    exact assemble_without hgiven h
  · intro hhidden text
    exact assemble_hidden_compiler hgiven hhidden text
  · intro hhidden name
    exact assemble_hidden_buildType hgiven hhidden name

end Assembly

/-- A spec file with a compiler and two variants. -/
def clangFile : SpecFile :=
  { SpecFile.empty with
    compiler := some ⟨.clang, some "12"⟩
    variants := .ofList [("conduit", .text "ibv"), ("cuda_arch", .text "75")] }

/-- The file of that spec file. -/
def clangFiles : Files :=
  .ofList [("legion.toml", .ok (.file
    "compiler = \"clang@12\"\n[variants]\nconduit = \"ibv\"\ncuda_arch = \"75\"\n".toUTF8))]

/-- A configuration whose compiler has no name. -/
def namelessConfig : Config :=
  { Config.default with
    defaults := ⟨some "@9", some "Debug", some "cr", none⟩
    variants := .ofList [("cuda_arch", .text "60"), ("hwloc", .bool true)] }

/-- The file hides the compiler that has no name, and of two tokens for the
conduit the last one counts. -/
theorem assemble_clangFiles :
    ∃ spec, assemble clangFiles (some "legion.toml") ["conduit=udp", "+cuda", "conduit=mpi"]
        namelessConfig = .ok spec
      ∧ spec.compiler = ⟨.clang, some "12"⟩ ∧ spec.buildType = .debug ∧ spec.version = "cr"
      ∧ spec.variants.get? "conduit" = some (.text "mpi")
      ∧ spec.variants.get? "cuda_arch" = some (.text "75")
      ∧ spec.variants.get? "hwloc" = some (.bool true)
      ∧ spec.variants.get? "zlib" = none := by
  have hload : SpecFile.load clangFiles "legion.toml" = .ok clangFile := by
    have hoption : (SpecFile.load clangFiles "legion.toml").toOption = some clangFile := by
      decide +kernel
    cases hloaded : SpecFile.load clangFiles "legion.toml" with
    | error error =>
      rw [hloaded] at hoption
      cases hoption
    | ok file =>
      rw [hloaded] at hoption
      rw [Option.some.inj hoption]
  have hparse : TokensParse ["conduit=udp", "+cuda", "conduit=mpi"] := by
    intro token hmem
    have hall : ∀ token ∈ ["conduit=udp", "+cuda", "conduit=mpi"],
        (parseToken token).isOk = true := by decide +kernel
    obtain ⟨⟨name, value⟩, htoken⟩ := exists_ok_of_isOk (hall token hmem)
    exact ⟨name, value, htoken⟩
  have hlegible : clangFile.Legible namelessConfig ["conduit=udp", "+cuda", "conduit=mpi"] := by
    refine ⟨hparse, .inl (by decide), .inr ?_⟩
    rintro _ ⟨⟩
    exact ⟨.debug, rfl⟩
  obtain ⟨hsuccess, hlayers, _⟩ := assemble_layers (.loaded hload) namelessConfig
    ["conduit=udp", "+cuda", "conduit=mpi"]
  obtain ⟨spec, h⟩ := hsuccess.2 hlegible
  obtain ⟨hlayered, _⟩ := hlayers spec h
  refine ⟨spec, h, hlayered.compiler, hlayered.buildType, hlayered.version, ?_, ?_, ?_, ?_⟩
  · rw [hlayered.variants]
    decide +kernel
  · rw [hlayered.variants]
    decide +kernel
  · rw [hlayered.variants]
    decide +kernel
  · rw [hlayered.variants]
    decide +kernel

end Spec

end BuildVariants
