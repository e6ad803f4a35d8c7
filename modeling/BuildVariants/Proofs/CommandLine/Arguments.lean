import BuildVariants.CommandLine.Arguments

/-!
# Invocations as they are written

Every invocation can be written as a command line: the name of the command, its
switches, the configuration file, the tokens and last what is no option
(`Invocation.arguments`). Values are attached to their options and the last
argument stands behind `--`, so it does not matter how a value begins.

What is written is read back (`parse_arguments`). An empty path is the one thing
that cannot be given, neither on the command line nor by the environment.
-/

namespace BuildVariants.CommandLine

/-! ## What an invocation says -/

/-- The long name of a switch. -/
def Switch.name : Switch → String
  | verbose => "verbose"
  | noColor => "no-color"
  | json => "json"
  | exportEnv => "export-env"
  | all => "all"

/-- Every switch. -/
def Switch.every : List Switch := [verbose, noColor, json, exportEnv, all]

theorem Switch.mem_every (switch : Switch) : switch ∈ every := by cases switch <;> decide

namespace Command

/-- The name of a command. -/
def name : Command → CommandName
  | flags .. => .flags
  | check _ => .check
  | variants _ => .variants
  | deps .. => .deps
  | completions _ => .completions

/-- The tokens of a command. -/
def tokens : Command → List String
  | flags spec _ _ | check spec | deps spec _ => spec.tokens
  | variants _ | completions _ => []

/-- What a command is given that is no option: a spec file or a shell. -/
def operand? : Command → Option String
  | flags spec _ _ | check spec | deps spec _ => spec.path
  | variants _ => none
  | completions shell => some shell.name

end Command

namespace Invocation

/-- Whether a switch is on. -/
def on (invocation : Invocation) : Switch → Bool
  | .verbose => invocation.verbose
  | .noColor => invocation.noColor
  | .json =>
    match invocation.command with
    | .flags _ json _ | .variants json => json
    | _ => false
  | .exportEnv =>
    match invocation.command with
    | .flags _ _ exportEnv => exportEnv
    | _ => false
  | .all =>
    match invocation.command with
    | .deps _ all => all
    | _ => false

/-- The switches that are on. -/
def switches (invocation : Invocation) : List Switch := Switch.every.filter invocation.on

/-- What stands behind the name of the command. -/
def options (invocation : Invocation) : List String :=
  invocation.switches.map ("--" ++ ·.name)
    ++ ((invocation.config.map ("--config=" ++ ·)).toList
      ++ (invocation.command.tokens.map ("-v=" ++ ·)
        ++ invocation.command.operand?.elim [] (["--", ·])))

/-- **An invocation as a command line.** -/
def arguments (invocation : Invocation) : List String :=
  invocation.command.name.text :: invocation.options

theorem contains_switches (invocation : Invocation) (switch : Switch) :
    invocation.switches.contains switch = invocation.on switch := by
  rw [Bool.eq_iff_iff, List.contains_iff_mem, switches, List.mem_filter]
  exact and_iff_right switch.mem_every

theorem nodup_switches (invocation : Invocation) : invocation.switches.Nodup :=
  List.Pairwise.filter _ (by decide : Switch.every.Nodup)

/-- Each switch that is on has its place behind the command. -/
theorem switch?_of_on {invocation : Invocation} {switch : Switch}
    (h : invocation.on switch = true) :
    (Place.after invocation.command.name).switch? switch.name = some switch := by
  obtain ⟨command, verbose, noColor, config⟩ := invocation
  cases switch <;> cases command <;> first | rfl | exact absurd h Bool.false_ne_true

end Invocation

namespace Given

variable {given : Given} {place : Place}

/-- Take arguments one after the other. -/
def takeAll (place : Place) (given : Given) (arguments : List String) : Except Stop Given :=
  arguments.foldlM (fun given argument => given.take place argument) given

/-- Arguments are taken from left to right. -/
theorem takeAll_append (place : Place) (given : Given) (first second : List String) :
    takeAll place given (first ++ second)
      = (takeAll place given first).bind fun given => takeAll place given second :=
  List.foldlM_append

/-- Nothing was given last that has not been looked at, and options can still
be given. -/
structure Settled (given : Given) : Prop where
  pending : given.pending = .nothing
  options : given.operandsOnly = false

theorem settle_of_settled (h : given.Settled) (place : Place) : given.settle place = .ok given := by
  rw [settle, h.pending]

/-- A switch is taken where it has its place, once. -/
theorem take_switch (h : given.Settled) {switch : Switch}
    (hplace : place.switch? switch.name = some switch) (hnew : switch ∉ given.switches) :
    given.take place ("--" ++ switch.name)
      = .ok { given with switches := given.switches ++ [switch] } := by
  have htake : given.take place ("--" ++ switch.name) = given.takeLong place switch.name none := by
    rw [take, h.options, if_neg Bool.false_ne_true, h.pending]
    cases switch <;> rfl
  have hsetting : place.setting? switch.name = none := by cases switch <;> rfl
  have hhelp : switch.name ≠ "help" := by cases switch <;> decide
  have hversion : ¬ (switch.name = "version" ∧ place = .before) := by
    cases switch <;> exact fun h => absurd h.1 (by decide)
  rw [htake, takeLong, hsetting]
  simp only [Option.isSome_none, Bool.false_eq_true, if_false, if_neg hhelp, if_neg hversion,
    hplace, settle_of_settled h]
  exact if_neg fun hcontains => hnew (List.contains_iff_mem.1 hcontains)

/-- Switches that have their place are taken one after the other. -/
theorem takeAll_switches (h : given.Settled) {switches : List Switch}
    (hplace : ∀ switch ∈ switches, place.switch? switch.name = some switch)
    (hnew : (given.switches ++ switches).Nodup) :
    takeAll place given (switches.map ("--" ++ ·.name))
      = .ok { given with switches := given.switches ++ switches } := by
  induction switches generalizing given with
  | nil =>
    rw [List.append_nil]
    rfl
  | cons switch rest ih =>
    obtain ⟨hswitch, hrest⟩ := List.forall_mem_cons.1 hplace
    have hfresh : switch ∉ given.switches := fun hmem =>
      (List.nodup_append.1 hnew).2.2 switch hmem switch List.mem_cons_self rfl
    rw [List.append_cons] at hnew
    have hsettled : Settled { given with switches := given.switches ++ [switch] } :=
      ⟨h.pending, h.options⟩
    have hnext := ih hsettled hrest hnew
    rw [takeAll, List.map_cons, List.foldlM_cons, take_switch h hswitch hfresh]
    exact hnext.trans (by rw [← List.append_cons])

/-- A long option ends at its first equals sign. -/
theorem splitLong_append {name : List Char} (h : '=' ∉ name) (value : List Char) :
    splitLong (name ++ '=' :: value) = (.ofList name, some (.ofList value)) := by
  have hname : (name ++ '=' :: value).takeWhile (· ≠ '=') = name := by
    have hbefore : ∀ c ∈ name, decide (c ≠ '=') = true := fun c hc =>
      decide_eq_true fun heq : c = '=' => h (heq ▸ hc)
    rw [List.takeWhile_append_of_pos hbefore, List.takeWhile_cons_of_neg (by decide),
      List.append_nil]
  rw [splitLong, hname, List.drop_left]

/-- The configuration file is taken, once and if it is named at all. -/
theorem take_config (h : given.Settled) (hnew : given.config = none) (path : String) :
    given.take place ("--config=" ++ path)
      = if path = "" then .error .usage else .ok { given with config := some path } := by
  have hsplit : splitLong ("config=".toList ++ path.toList) = ("config", some path) := by
    have hname : '=' ∉ "config".toList := by decide
    have hsplit := splitLong_append hname path.toList
    rwa [String.ofList_toList, String.ofList_toList] at hsplit
  have htake : given.take place ("--config=" ++ path)
      = given.takeLong place "config" (some path) := by
    rw [take, h.options, if_neg Bool.false_ne_true, h.pending, String.toList_append]
    show given.takeLong place (splitLong ("config=".toList ++ path.toList)).1
      (splitLong ("config=".toList ++ path.toList)).2 = _
    rw [hsplit]
  rw [htake, takeLong, show place.setting? "config" = some .config from rfl]
  simp only [takeSetting, settle_of_settled h]
  show (if given.config.isSome ∨ path.isEmpty then Except.error Stop.usage
    else .ok { given with config := some path }) = _
  simp only [hnew, Option.isSome_none, Bool.false_eq_true, false_or, String.isEmpty_iff]

/-- A token is taken where a build can be asked for. -/
theorem take_token (h : given.Settled) (hplace : place.takesSpec = true) (token : String) :
    given.take place ("-v=" ++ token) = .ok { given with tokens := given.tokens ++ [token] } := by
  have htake : given.take place ("-v=" ++ token)
      = given.takeSetting place .variant (some token) := by
    rw [take, h.options, if_neg Bool.false_ne_true, h.pending, String.toList_append]
    show (if place.takesSpec then
      given.takeSetting place .variant (some (.ofList token.toList)) else .error .usage) = _
    rw [if_pos hplace, String.ofList_toList]
  rw [htake, takeSetting, settle_of_settled h]
  rfl

/-- **Tokens are taken one by one**, where a spec may be given. -/
theorem takeAll_tokens (h : given.Settled) {tokens : List String}
    (hplace : tokens ≠ [] → place.takesSpec = true) :
    takeAll place given (tokens.map ("-v=" ++ ·))
      = .ok { given with tokens := given.tokens ++ tokens } := by
  induction tokens generalizing given with
  | nil =>
    rw [List.append_nil]
    rfl
  | cons token rest ih =>
    have hspec := hplace (List.cons_ne_nil token rest)
    have hsettled : Settled { given with tokens := given.tokens ++ [token] } :=
      ⟨h.pending, h.options⟩
    have hnext := ih hsettled fun _ => hspec
    rw [takeAll, List.map_cons, List.foldlM_cons, take_token h hspec]
    exact hnext.trans (by rw [← List.append_cons])

/-- A configuration is taken once, if its path is not empty. -/
theorem takeAll_config (h : given.Settled) (hnew : given.config = none) (config : Option String) :
    takeAll place given (config.map ("--config=" ++ ·)).toList
      = if config = some "" then .error .usage else .ok { given with config } := by
  cases config with
  | none =>
    show Except.ok given = .ok { given with config := none }
    rw [← hnew]
  | some path =>
    show (given.take place ("--config=" ++ path)).bind pure = _
    rw [take_config h hnew path]
    by_cases hpath : path = ""
    · rw [if_pos hpath, if_pos (congrArg some hpath)]
      rfl
    · rw [if_neg hpath, if_neg fun heq => hpath (Option.some.inj heq)]
      rfl

/-- What is no option is taken behind `--`, to be looked at later. -/
theorem takeAll_operand (h : given.Settled) (hnew : given.operand = none) {operand? : Option String}
    (hplace : operand?.isSome → place.takesOperand = true) :
    takeAll place given (operand?.elim [] (["--", ·]))
      = .ok { given with
          pending := operand?.elim .nothing .operand
          operandsOnly := operand?.isSome } := by
  cases operand? with
  | none =>
    obtain ⟨hpending, hoptions⟩ := h
    show Except.ok given = .ok { given with pending := .nothing, operandsOnly := false }
    rw [← hpending, ← hoptions]
  | some value =>
    have hdashes : given.take place "--" = .ok { given with operandsOnly := true } := by
      unfold take
      simp only [h.options, Bool.false_eq_true, if_false, h.pending]
      rfl
    have hsettled : Given.settle { given with operandsOnly := true } place
        = .ok { given with operandsOnly := true } := by
      simp only [settle, h.pending]
    have hvalue : Given.take { given with operandsOnly := true } place value
        = .ok { given with pending := .operand value, operandsOnly := true } := by
      show Given.takeOperand { given with operandsOnly := true } place value = _
      rw [takeOperand, hsettled]
      exact if_pos ⟨hplace rfl, Option.isNone_iff_eq_none.2 hnew⟩
    show (given.take place "--").bind (fun given => (given.take place value).bind pure) = _
    rw [hdashes]
    show (Given.take { given with operandsOnly := true } place value).bind pure = _
    rw [hvalue]
    rfl

end Given

/-! ## Reading back -/

namespace Invocation

open Given

variable (invocation : Invocation)

/-- Only a command that takes a spec has tokens. -/
theorem takesSpec_of_tokens (h : invocation.command.tokens ≠ []) :
    (Place.after invocation.command.name).takesSpec = true := by
  obtain ⟨command, verbose, noColor, config⟩ := invocation
  cases command <;> first | rfl | exact absurd rfl h

theorem takesOperand_of_operand? (h : invocation.command.operand?.isSome) :
    (Place.after invocation.command.name).takesOperand = true := by
  obtain ⟨command, verbose, noColor, config⟩ := invocation
  cases command <;> first | rfl | exact nomatch h

/-- What the options say, the last of them not yet looked at. -/
def given : Given where
  switches := invocation.switches
  config := invocation.config
  tokens := invocation.command.tokens
  operand := none
  pending := invocation.command.operand?.elim .nothing .operand
  operandsOnly := invocation.command.operand?.isSome

/-- **The options say what they were written for**, unless the path of the
configuration file is empty. -/
theorem takeAll_options :
    takeAll (.after invocation.command.name) .start invocation.options
      = if invocation.config = some "" then .error .usage else .ok invocation.given := by
  have hstart : Settled .start := ⟨rfl, rfl⟩
  have hplace : ∀ switch ∈ invocation.switches,
      (Place.after invocation.command.name).switch? switch.name = some switch :=
    fun _ hswitch => switch?_of_on (List.mem_filter.1 hswitch).2
  have hswitches := takeAll_switches hstart hplace invocation.nodup_switches
  rw [options, takeAll_append, hswitches]
  show (takeAll _ _ _) = _
  rw [takeAll_append, takeAll_config ⟨rfl, rfl⟩ rfl]
  split
  · rfl
  show (takeAll _ _ _) = _
  rw [takeAll_append, takeAll_tokens ⟨rfl, rfl⟩ invocation.takesSpec_of_tokens]
  exact takeAll_operand ⟨rfl, rfl⟩ rfl invocation.takesOperand_of_operand?

/-- A spec file that is not empty fits, and so does the name of a shell. -/
theorem setOperand_operand? {command : Command} {value : String}
    (h : command.operand? = some value) {given : Given} (hnew : given.operand = none) :
    given.setOperand (.after command.name) value
      = if value = "" then .error .usage else .ok { given with operand := some value } := by
  have hfits : given.setOperand (.after command.name) value
      = if (!value.isEmpty) = true ∧ given.operand.isNone then
          .ok { given with operand := some value }
        else .error .usage := by
    cases command with
    | flags spec json exportEnv => rfl
    | check spec => rfl
    | variants json => exact nomatch h
    | deps spec all => rfl
    | completions shell =>
      obtain rfl := Option.some.inj h
      cases shell <;> rfl
  rw [hfits]
  by_cases hempty : value = ""
  · rw [if_pos hempty, if_neg fun hfits => by simp [hempty] at hfits]
  · rw [if_neg hempty, if_pos ⟨by simpa using hempty, Option.isNone_iff_eq_none.2 hnew⟩]

/-- What the options say is settled, unless an empty path is among it. -/
theorem finish_given (environment : Option String) :
    invocation.given.finish (.after invocation.command.name) environment
      = if invocation.command.operand? = some ""
            ∨ (invocation.config = none ∧ environment = some "") then .error .usage
        else .ok { invocation.given with
          operand := invocation.command.operand?
          pending := .nothing } := by
  have hsettle : invocation.given.settle (.after invocation.command.name)
      = if invocation.command.operand? = some "" then .error .usage
        else .ok { invocation.given with
          operand := invocation.command.operand?
          pending := .nothing } := by
    unfold settle
    cases hoperand : invocation.command.operand? with
    | none =>
      simp only [given, hoperand]
      rfl
    | some value =>
      have hnew : Given.operand { invocation.given with pending := .nothing } = none := rfl
      have hset := setOperand_operand? hoperand hnew
      simp only [given, hoperand, Option.elim_some, Option.some.injEq] at hset ⊢
      exact hset
  rw [finish, hsettle]
  by_cases hoperand : invocation.command.operand? = some ""
  · rw [if_pos hoperand, if_pos (.inl hoperand)]
    rfl
  · rw [if_neg hoperand]
    show (if invocation.config.isNone = true ∧ environment = some "" then _ else _) = _
    simp only [Option.isNone_iff_eq_none, hoperand, false_or]

theorem parseFrom_command (environment : Option String) (name : CommandName)
    (options : List String) :
    parseFrom environment .start (name.text :: options)
      = (takeAll (.after name) .start options).bind fun after =>
        (after.finish (.after name) environment).bind fun after =>
        (commandOf name after).bind fun command =>
        (Given.start.finish .before environment).bind fun before =>
        let on (switch : Switch) :=
          before.switches.contains switch || after.switches.contains switch
        .ok
          { command
            verbose := on .verbose
            noColor := on .noColor
            config := after.config.or (before.config.or environment) } := by
  cases name <;> rfl

/-- **A command is made of what was given for it.** -/
theorem commandOf_name {given : Given} (hswitches : given.switches = invocation.switches)
    (htokens : given.tokens = invocation.command.tokens)
    (hoperand : given.operand = invocation.command.operand?) :
    commandOf invocation.command.name given = .ok invocation.command := by
  obtain ⟨switches, config, tokens, operand, pending, operandsOnly⟩ := given
  obtain rfl : switches = invocation.switches := hswitches
  obtain rfl : tokens = invocation.command.tokens := htokens
  obtain rfl : operand = invocation.command.operand? := hoperand
  have hon := invocation.contains_switches
  obtain ⟨command, verbose, noColor, path⟩ := invocation
  cases command with
  | flags spec json exportEnv =>
    exact congrArg Except.ok (congr (congrArg (Command.flags spec) (hon .json)) (hon .exportEnv))
  | check spec => rfl
  | variants json => exact congrArg (Except.ok ∘ Command.variants) (hon .json)
  | deps spec all => exact congrArg (Except.ok ∘ Command.deps spec) (hon .all)
  | completions shell => cases shell <;> rfl

/-- **An invocation is read back from its command line**, with the
configuration file of the environment where it names none. An empty path does
not fit. -/
theorem parse_arguments (environment : Option String) :
    parse environment invocation.arguments
      = if environment = some "" ∨ invocation.config = some ""
            ∨ invocation.command.operand? = some "" then .error .usage
        else .ok { invocation with config := invocation.config.or environment } := by
  have hbefore : Given.start.finish .before environment
      = if environment = some "" then .error .usage else .ok .start := by
    show (if (none : Option String).isNone = true ∧ environment = some "" then _ else _) = _
    simp only [Option.isNone_none, true_and]
  rw [parse, arguments, parseFrom_command, takeAll_options]
  by_cases hconfig : invocation.config = some ""
  · rw [if_pos hconfig, if_pos (.inr (.inl hconfig))]
    rfl
  rw [if_neg hconfig]
  show (invocation.given.finish _ environment).bind _ = _
  rw [finish_given]
  by_cases hoperand : invocation.command.operand? = some ""
  · rw [if_pos (.inl hoperand), if_pos (.inr (.inr hoperand))]
    rfl
  by_cases henvironment : environment = some ""
  · -- the options after the command may name a file, but those before it do not
    rw [if_pos (c := _ ∨ _ ∨ _) (.inl henvironment)]
    split
    · rfl
    · show (commandOf _ _).bind _ = _
      rw [commandOf_name invocation rfl rfl rfl]
      show (Given.start.finish .before environment).bind _ = _
      rw [hbefore, if_pos henvironment]
      rfl
  · rw [if_neg fun h => h.elim hoperand fun h => henvironment h.2,
      if_neg fun h => h.elim henvironment fun h => h.elim hconfig hoperand]
    show (commandOf _ _).bind _ = _
    rw [commandOf_name invocation rfl rfl rfl]
    show (Given.start.finish .before environment).bind _ = _
    rw [hbefore, if_neg henvironment]
    refine congrArg Except.ok ?_
    rw [Invocation.mk.injEq]
    exact ⟨rfl, invocation.contains_switches .verbose, invocation.contains_switches .noColor, rfl⟩

end Invocation

end BuildVariants.CommandLine
