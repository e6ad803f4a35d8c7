import BuildVariants.CommandLine.Run
import BuildVariants.Proofs.BuildPlan
import BuildVariants.Proofs.CommandLine.Arguments
import BuildVariants.Proofs.Data.Reading
import BuildVariants.Proofs.Planner
import BuildVariants.Proofs.Text.Lines

/-!
# The commands agree

`flags`, `check` and `deps` assemble the same request and put it to the same
planner, the last of them to its gate only. So `flags` and `check` succeed on the
same requests, `deps` on all of these, and on others only where a plan fails
behind the gate, for want of Kokkos' compiler. What `deps` lists are the dependencies
that `flags` shows in its JSON (`commands_agree`).

No command that fails has printed anything (`silent_run`): a text is printed when
nothing can fail any more.
-/

namespace BuildVariants.CommandLine

variable {surroundings : Surroundings} {named : Option String} {arguments : SpecArguments}

/-! ## Failing in silence -/

namespace Outcome

/-- A command that fails has printed nothing. -/
def Silent (outcome : Outcome) : Prop := outcome.code ≠ 0 → outcome.output = ""

theorem code_success (warnings : List Warning) (output : String) :
    (success warnings output).code = 0 := rfl

theorem code_failed (warnings : List Warning) (failure : Failure) :
    (failed warnings failure).code ≠ 0 := by
  cases failure with
  | usage => exact (by decide : (2 : UInt8) ≠ 0)
  | assembly _ => exact (by decide : (1 : UInt8) ≠ 0)
  | selection _ => exact (by decide : (1 : UInt8) ≠ 0)

theorem silent_success (warnings : List Warning) (output : String) :
    (success warnings output).Silent :=
  fun h => absurd (code_success warnings output) h

theorem silent_failed (warnings : List Warning) (failure : Failure) :
    (failed warnings failure).Silent :=
  fun _ => rfl

end Outcome

/-! ## Working on a request -/

section OnRequest

variable {work : Request → Except SelectionError (String × List Warning)}

/-- A command on a request prints what the work on it gives, or it fails
because there is no request or the work on it is not done. -/
theorem onRequest_cases (surroundings : Surroundings) (named : Option String)
    (arguments : SpecArguments)
    (work : Request → Except SelectionError (String × List Warning)) :
    (∃ asked printed warnings, request surroundings named arguments = .ok asked
        ∧ work asked = .ok printed
        ∧ onRequest surroundings named arguments work = .success warnings printed.1)
      ∨ (∀ asked printed, request surroundings named arguments = .ok asked →
          work asked ≠ .ok printed)
        ∧ ∃ warnings failure,
          onRequest surroundings named arguments work = .failed warnings failure := by
  let warnings := configWarnings surroundings.files (configPaths surroundings named)
  unfold onRequest
  cases hrequest : request surroundings named arguments with
  | error failure => exact .inr ⟨fun _ _ h => (nomatch h), warnings, failure, rfl⟩
  | ok asked =>
    cases hwork : work asked with
    | error error =>
      refine .inr ⟨?_, warnings, .selection error, by simp only [hwork]; rfl⟩
      rintro _ printed ⟨⟩ hdone
      exact nomatch hwork.symm.trans hdone
    | ok printed =>
      exact .inl ⟨asked, printed, warnings ++ printed.2, rfl, hwork, by simp only [hwork]; rfl⟩

/-- **A command on a request succeeds** if there is a request and the work on
it is done. -/
theorem code_onRequest_iff :
    (onRequest surroundings named arguments work).code = 0
      ↔ ∃ asked printed, request surroundings named arguments = .ok asked
          ∧ work asked = .ok printed := by
  rcases onRequest_cases surroundings named arguments work with
    ⟨asked, printed, _, hasked, hdone, hsuccess⟩ | ⟨hnone, _, failure, hfailed⟩
  · rw [hsuccess]
    exact iff_of_true rfl ⟨asked, printed, hasked, hdone⟩
  · rw [hfailed]
    exact iff_of_false (Outcome.code_failed _ failure) fun ⟨asked, printed, hasked, hdone⟩ =>
      hnone asked printed hasked hdone

theorem output_onRequest {asked : Request} {printed : String × List Warning}
    (hasked : request surroundings named arguments = .ok asked)
    (hdone : work asked = .ok printed) :
    (onRequest surroundings named arguments work).output = printed.1 := by
  rcases onRequest_cases surroundings named arguments work with
    ⟨asked', printed', _, hasked', hdone', hsuccess⟩ | ⟨hnone, _⟩
  · obtain rfl := Except.ok.inj (hasked.symm.trans hasked')
    obtain rfl := Except.ok.inj (hdone.symm.trans hdone')
    rw [hsuccess]
    rfl
  · exact absurd hdone (hnone asked printed hasked)

/-- A command that works on a request prints nothing unless it succeeds. -/
theorem silent_onRequest : (onRequest surroundings named arguments work).Silent := by
  rcases onRequest_cases surroundings named arguments work with
    ⟨_, _, _, _, _, hsuccess⟩ | ⟨_, _, _, hfailed⟩
  · rw [hsuccess]
    exact Outcome.silent_success _ _
  · rw [hfailed]
    exact Outcome.silent_failed _ _

end OnRequest

/-- No invocation that fails prints anything. -/
theorem silent_perform (surroundings : Surroundings) (invocation : Invocation) :
    (perform surroundings invocation).Silent := by
  obtain ⟨command, verbose, noColor, config⟩ := invocation
  cases command with
  | flags spec json exportEnv => exact silent_onRequest
  | check spec => exact silent_onRequest
  | variants json => exact Outcome.silent_success _ _
  | deps spec all =>
    cases all
    · exact silent_onRequest
    · exact Outcome.silent_success _ _
  | completions shell => exact Outcome.silent_success _ _

/-- **No command line that fails prints anything.** -/
theorem silent_run (surroundings : Surroundings) (arguments : List String) :
    (run surroundings arguments).Silent := by
  unfold run
  split
  · exact silent_perform surroundings _
  · exact Outcome.silent_failed _ _
  · exact Outcome.silent_success _ _
  · exact Outcome.silent_success _ _

/-- **The line of a dependency**: its text, and what it is needed for. -/
def dependencyLine (dependency : Dependency) : String :=
  dependency.render ++ match dependency.kind with
    | .build => " (build)"
    | .link => " (link)"

/-- A dependency is listed on its line. -/
theorem listing_eq (dependency : Dependency) : dependency.listing = dependencyLine dependency := by
  rw [Dependency.listing, dependencyLine, String.append_assoc, String.append_assoc]
  cases dependency.kind <;> rfl

/-- No dependency of Legion is listed over several lines. -/
theorem not_mem_listing (resolved : ResolvedSpec) :
    ∀ line ∈ (Legion.package.planner.active resolved).map (·.listing), '\n' ∉ line.toList := by
  have hrows : ∀ row ∈ Legion.dependencies, '\n' ∉ row.dependency.listing.toList := by
    decide +kernel
  intro line hline
  obtain ⟨dependency, hdependency, rfl⟩ := List.mem_map.1 hline
  obtain ⟨row, hrow, _, rfl⟩ := DependencyRow.mem_active_iff.1 hdependency
  exact hrows row hrow

/-! ## Command lines -/

/-- Running the command line of an invocation is performing it, unless a path on
it is empty. -/
theorem run_arguments (surroundings : Surroundings) (invocation : Invocation) :
    run surroundings invocation.arguments
      = if surroundings.environment = some "" ∨ invocation.config = some ""
            ∨ invocation.command.operand? = some "" then .failed [] .usage
        else perform surroundings
          { invocation with config := invocation.config.or surroundings.environment } := by
  rw [run, invocation.parse_arguments]
  by_cases hempty : surroundings.environment = some "" ∨ invocation.config = some ""
      ∨ invocation.command.operand? = some ""
  · rw [if_pos hempty, if_pos hempty]
  · rw [if_neg hempty, if_neg hempty]

/-- What a command comes to on the command line, beside options that all commands
share. -/
def ask (surroundings : Surroundings) (verbose noColor : Bool) (config : Option String)
    (command : Command) : Outcome :=
  run surroundings (Invocation.arguments ⟨command, verbose, noColor, config⟩)

section Agreement

variable {surroundings : Surroundings} {verbose noColor : Bool} {config : Option String}
  {spec : SpecArguments}

/-- A path that is given is not empty. -/
def PathsGiven (surroundings : Surroundings) (config : Option String) (spec : SpecArguments) :
    Prop :=
  ¬ (surroundings.environment = some "" ∨ config = some "" ∨ spec.path = some "")

/-- **A request is asked for**, and it is as it has to be. -/
def Requested (surroundings : Surroundings) (config : Option String) (spec : SpecArguments)
    (fits : Request → Prop) : Prop :=
  PathsGiven surroundings config spec ∧ ∃ asked,
    request surroundings (config.or surroundings.environment) spec = .ok asked ∧ fits asked

section Ask

variable {command : Command} {work : Request → Except SelectionError (String × List Warning)}

/-- With no path empty, a command line is performed as it stands. -/
theorem ask_of_given (hgiven : PathsGiven surroundings config spec)
    (hoperand : command.operand? = spec.path) :
    ask surroundings verbose noColor config command
      = perform surroundings
        ⟨command, verbose, noColor, config.or surroundings.environment⟩ := by
  rw [ask, run_arguments, if_neg (hoperand ▸ hgiven)]

/-- **A command succeeds** if a request is asked for on which its work is
done. -/
theorem code_ask_iff (hoperand : command.operand? = spec.path)
    (hwork : ∀ named, perform surroundings ⟨command, verbose, noColor, named⟩
      = onRequest surroundings named spec work) :
    (ask surroundings verbose noColor config command).code = 0
      ↔ Requested surroundings config spec fun asked => ∃ printed, work asked = .ok printed := by
  unfold Requested
  by_cases hgiven : PathsGiven surroundings config spec
  · rw [ask_of_given hgiven hoperand, hwork, code_onRequest_iff, and_iff_right hgiven]
    simp only [exists_and_left]
  · rw [ask, run_arguments, if_pos (hoperand ▸ not_not.1 hgiven)]
    exact iff_of_false (Outcome.code_failed _ _) fun h => hgiven h.1

theorem output_ask (hoperand : command.operand? = spec.path)
    (hwork : ∀ named, perform surroundings ⟨command, verbose, noColor, named⟩
      = onRequest surroundings named spec work) (hgiven : PathsGiven surroundings config spec)
    {asked : Request}
    (hasked : request surroundings (config.or surroundings.environment) spec = .ok asked)
    {printed : String × List Warning} (hdone : work asked = .ok printed) :
    (ask surroundings verbose noColor config command).output = printed.1 := by
  rw [ask_of_given hgiven hoperand, hwork, output_onRequest hasked hdone]

end Ask

/-- `check` succeeds exactly on the requests that have a plan. -/
theorem code_ask_check_iff :
    (ask surroundings verbose noColor config (.check spec)).code = 0
      ↔ Requested surroundings config spec fun asked =>
          ∃ plan, Legion.package.planner.plan surroundings.files asked.spec = .ok plan := by
  rw [code_ask_iff rfl fun _ => rfl]
  simp only [check, Data.exists_map_eq_ok_iff]

/-- `flags` succeeds exactly on the requests that have a plan, however it prints. -/
theorem code_ask_flags_iff {json exportEnv : Bool} :
    (ask surroundings verbose noColor config (.flags spec json exportEnv)).code = 0
      ↔ Requested surroundings config spec fun asked =>
          ∃ plan, Legion.package.planner.plan surroundings.files asked.spec = .ok plan := by
  rw [code_ask_iff rfl fun _ => rfl]
  simp only [flags, Data.exists_map_eq_ok_iff]

/-- `deps` succeeds already if the gate lets a request through. -/
theorem code_ask_deps_iff :
    (ask surroundings verbose noColor config (.deps spec false)).code = 0
      ↔ Requested surroundings config spec fun asked => ∃ resolved,
          Legion.package.planner.check surroundings.files asked.spec = .ok resolved := by
  rw [code_ask_iff rfl fun _ => rfl]
  simp only [deps, Data.exists_map_eq_ok_iff]

/-- **The commands agree**, whatever is asked for and whatever is around:
`check` succeeds when `flags` does in any form. Then `deps` succeeds as well. The JSON
that `flags` prints shows the dependencies of the plan, each in its place, and the lines
of `deps` are those of the same dependencies, in the same order. Only with Kokkos on and
its compiler not known does `deps` succeed alone. And no command line that fails has
printed anything. -/
theorem commands_agree (surroundings : Surroundings) (verbose noColor : Bool)
    (config : Option String) (spec : SpecArguments) :
    let ask := ask surroundings verbose noColor config
    let requested := request surroundings (config.or surroundings.environment) spec
    let planner := Legion.package.planner
    (∀ json exportEnv, (ask (.check spec)).code = 0 ↔ (ask (.flags spec json exportEnv)).code = 0)
      ∧ ((ask (.check spec)).code = 0 → (ask (.deps spec false)).code = 0
        ∧ ∃ asked plan, requested = .ok asked
          ∧ planner.plan surroundings.files asked.spec = .ok plan
          ∧ (∀ exportEnv,
            (ask (.flags spec true exportEnv)).output = Json.pretty plan.toData ++ "\n"
              ∧ ∃ shown items, Json.parse? (ask (.flags spec true exportEnv)).output = some shown
                ∧ shown.entry? [] "dependencies" = some (.list items)
                ∧ List.Forall₂ Dependency.ShownBy plan.dependencies items)
          ∧ (Text.pieces '\n' (ask (.deps spec false)).output.toList).map String.ofList
            = plan.dependencies.map dependencyLine ++ [""])
      ∧ ((ask (.deps spec false)).code = 0 → (ask (.check spec)).code ≠ 0 →
        ∃ asked values, requested = .ok asked
          ∧ planner.Cleared surroundings.files asked.spec values
          ∧ values.enabled "kokkos" = true
          ∧ ∀ known, asked.spec.dependencies.get? "kokkos" = some known → known.cxx = none)
      ∧ ∀ arguments, (run surroundings arguments).code ≠ 0 →
        (run surroundings arguments).output = "" := by
  intro ask requested planner
  refine ⟨fun json exportEnv => ?_, fun hcheck => ?_, fun hdeps hcheck => ?_,
    silent_run surroundings⟩
  · rw [code_ask_check_iff, code_ask_flags_iff]
  · obtain ⟨hgiven, asked, hasked, plan, hplan⟩ := code_ask_check_iff.1 hcheck
    obtain ⟨values, derived, hcleared, _, hdependencies⟩ := Planner.plan_eq_ok_iff.1 hplan
    have hgate := Planner.check_eq_ok_iff.2 ⟨values, rfl, hcleared⟩
    refine ⟨code_ask_deps_iff.2 ⟨hgiven, asked, hasked, _, hgate⟩, asked, plan, hasked, hplan,
      fun exportEnv => ?_, ?_⟩
    · have hdone : flags surroundings.files true exportEnv asked
          = .ok (printPlan .json exportEnv plan) := Data.map_eq_ok_iff.2 ⟨plan, hplan, rfl⟩
      have houtput : (ask (.flags spec true exportEnv)).output = Json.pretty plan.toData ++ "\n" :=
        output_ask rfl (fun _ => rfl) hgiven hasked hdone
      exact ⟨houtput, houtput ▸ plan.exists_shown⟩
    · have hdone : deps surroundings.files asked
          = .ok (unlines ((planner.active ⟨asked.spec, values⟩).map (·.listing)), []) :=
        Data.map_eq_ok_iff.2 ⟨_, hgate, rfl⟩
      rw [output_ask rfl (fun _ => rfl) hgiven hasked hdone,
        Text.pieces_unlines (not_mem_listing _), hdependencies]
      simp only [listing_eq]
      rfl
  · obtain ⟨hgiven, asked, hasked, resolved, hgate⟩ := code_ask_deps_iff.1 hdeps
    obtain ⟨values, rfl, hcleared⟩ := Planner.check_eq_ok_iff.1 hgate
    have hnone : ¬ ∃ derived, Derived.ofResolved ⟨asked.spec, values⟩ = .ok derived := by
      rintro ⟨derived, hderived⟩
      exact hcheck (code_ask_check_iff.2 ⟨hgiven, asked, hasked, _,
        Planner.plan_eq_ok_iff.2 ⟨values, derived, hcleared, hderived, rfl⟩⟩)
    rw [Derived.exists_ofResolved_iff, Classical.not_imp] at hnone
    exact ⟨asked, values, hasked, hcleared, hnone.1,
      (Derived.known_or_unknown asked.spec).resolve_left hnone.2⟩

/-- A place without files and without a configuration. -/
def bare : Surroundings := ⟨.ofList [], none, "/", none⟩

/-- With nothing around, the commands agree on a build for MPI and part on one
with Kokkos, whose compiler is then not known. -/
theorem agree_bare :
    let ask := ask bare false false none
    let mpi : SpecArguments := ⟨none, ["network=mpi"]⟩
    let kokkos : SpecArguments := ⟨none, ["+kokkos"]⟩
    (∀ json exportEnv, (ask (.flags mpi json exportEnv)).code = 0)
      ∧ (Text.pieces '\n' (ask (.deps mpi false)).output.toList).map String.ofList
        = ["cmake@3.16: (build)", "mpi (link)", "zlib (link)", ""]
      ∧ (∃ shown items, Json.parse? (ask (.flags mpi true false)).output = some shown
        ∧ shown.entry? [] "dependencies" = some (.list items) ∧ items.length = 3)
      ∧ (ask (.deps kokkos false)).code = 0 ∧ (ask (.check kokkos)).code = 1
      ∧ ∃ asked values, request bare none kokkos = .ok asked
        ∧ Legion.package.planner.Cleared bare.files asked.spec values
        ∧ values.enabled "kokkos" = true
        ∧ ∀ known, asked.spec.dependencies.get? "kokkos" = some known → known.cxx = none := by
  intro ask mpi kokkos
  have hmpi : (ask (.check mpi)).code = 0 := by decide +kernel
  have hlines : (Text.pieces '\n' (ask (.deps mpi false)).output.toList).map String.ofList
      = ["cmake@3.16: (build)", "mpi (link)", "zlib (link)", ""] := by decide +kernel
  have hdeps : (ask (.deps kokkos false)).code = 0 := by decide +kernel
  have hcheck : (ask (.check kokkos)).code = 1 := by decide +kernel
  have hagree := commands_agree bare false false none
  obtain ⟨_, _, plan, _, _, hshown, hlisted⟩ := (hagree mpi).2.1 hmpi
  obtain ⟨_, shown, items, hparse, hitems, hdependencies⟩ := hshown false
  have hlength : items.length = 3 := by
    have hcount := congrArg List.length (hlisted.symm.trans hlines)
    rw [List.length_append, List.length_map, hdependencies.length_eq] at hcount
    exact Nat.succ.inj hcount
  exact ⟨fun json exportEnv => ((hagree mpi).1 json exportEnv).1 hmpi, hlines,
    ⟨shown, items, hparse, hitems, hlength⟩, hdeps, hcheck,
    (hagree kokkos).2.2.1 hdeps (hcheck ▸ by decide)⟩

end Agreement

end BuildVariants.CommandLine
