import PageMarkup.CommandLine.Run
import PageMarkup.Proofs.Content.Outcomes

/-!
# The command, step after step

The command is written here as it happens: each step looks at the files as they are by then, the
output file is written in one step, and notices are shown one after the other, up to the first that
the console refuses. What a step has written or shown stays, also where this or a later step ends
the command. `runCommand_eq_runStepwise` shows that this comes to what `runCommand` says.

The state of such a run tells in addition what has been generated so far. As long as this is
nothing, the command has not got beyond generation.

## Main definitions

* `Progress` : how far a run of the command has come.
* `Running` : the steps of a run.
* `runStepwise` : the command, and how far it has come where it ends.

## Main results

* `outcomeOn_generating` : all steps up to generation leave everything as it is.
* `runCommand_eq_runStepwise` : the two ways to tell what the command does agree.
* `files_of_generated_eq_none`, `files_of_generated_eq_some` : the files where a run ends.
* `files_of_code_ne_zero`, `write_of_code_eq_zero` : the files that the command leaves by its code.
-/

namespace PageMarkup

variable {α : Type}

/-- How far a run of the command has come: the files as they are, what has been generated, and the
lines that have been shown. -/
structure Progress where
  files : Workspace
  generated : Option CommandOutput
  shown : List String

namespace Progress

def start (files : Workspace) : Progress := ⟨files, none, []⟩

/-- Shows notices on a console one after the other, up to the first that it refuses. -/
def showAll (p : Progress) (c : Console) : List Notice → Except Misuse Unit × Progress
  | [] => (.ok (), p)
  | n :: ns =>
    match c.lines n with
    | .ok lines => showAll { p with shown := p.shown ++ lines } c ns
    | .error how => (.error how, p)

end Progress

/-- What the command can see when the files have become others. -/
def Surroundings.withFiles (env : Surroundings) (files : Workspace) : Surroundings :=
  { env with files := files }

@[simp] theorem Surroundings.withFiles_start (env : Surroundings) :
    env.withFiles (Progress.start env.files).files = env := rfl

/-- A part of a run, which may end the command. What it has written and shown by then stays. -/
abbrev Running := ExceptT CommandStop (StateM Progress)

namespace Running

/-- A step that looks at the files as they are. -/
def look (step : Workspace → CommandStep α) : Running α := do
  MonadExcept.ofExcept (step (← get).files)

/-- Writes a file. Where this fails, the file may have been cut short. -/
def save (p : Path) (text : String) : Running Unit := do
  let now ← get
  match now.files.write p text with
  | .ok files => set { now with files := files }
  | .error refusal =>
    set { now with files := refusal.left now.files }
    throw (writeStop p refusal)

/-- Shows notices on a console. -/
def print (c : Console) (notices : List Notice) : Running Unit := do
  let (how, now) := (← get).showAll c notices
  set now
  MonadExcept.ofExcept (uncaught (liftMisuse how))

end Running

open Running

namespace Options

/-- Reads the sources that options name one after the other, and generates the text. -/
def generating (o : Options) (env : Surroundings) : Running CommandOutput := do
  let target ← look fun files => checkOptions o (env.withFiles files)
  let document ← look fun files => o.document (env.withFiles files)
  let schema ← look fun files =>
    reportLoading "schema" (loadSchema files env.modules (Assigned.text o.schema))
  let settings ← look fun files => o.settings (env.withFiles files)
  let generator ← look fun files => uncaught (env.targets.create files target (.ready settings))
  let _ ← look fun _ => uncaught (liftMisuse (env.console.announce (progressMessage target)))
  look fun _ =>
    if o.jsxOnly then generateBare generator ⟨document, schema⟩
    else generateModule generator ⟨document, schema⟩

/-- Writes what was generated to the output file if one is named, and shows it otherwise. -/
def delivering (o : Options) (c : Console) (out : CommandOutput) : Running Unit := do
  let output := Assigned.text o.output
  if output.isEmpty then print c (.code out.text :: closingNotices o out)
  else
    save (.ofText output) (out.text ++ "\n")
    print c (.message (savedMessage (.ofText output)) :: closingNotices o out)

/-- The steps of a run under the given options. -/
def running (o : Options) (env : Surroundings) : Running Unit := do
  look fun _ => if o.logLevel matches .nothing then uncaught (misused .notText) else .ok ()
  if o.listTargets then
    print env.console (← look fun files => showTargets (env.withFiles files)).notices
  else
    let out ← o.generating env
    -- Only from here on the command is beyond generation.
    modify fun now => { now with generated := some out }
    o.delivering env.console out

end Options

/-- The command with the given words: its code or the fault that ends it, and how far it has come.
Where it ends with messages, these are shown last. -/
def runStepwise (args : List String) (env : Surroundings) : Except Fault Nat × Progress :=
  match Options.read args with
  | .error .refused => (.ok 2, .start env.files)
  | .error .help => (.ok 0, .start env.files)
  | .ok o =>
    match outcomeOn (o.running env) (.start env.files) with
    | (.ok (), now) => (.ok 0, now)
    | (.error (.uncaught f), now) => (.error f, now)
    | (.error (.reported messages), now) =>
      let (how, last) := now.showAll env.console (messages.map .message)
      ((liftMisuse how).map fun _ => 1, last)

/-! ### Single steps -/

@[simp] theorem outcomeOn_look (step : Workspace → CommandStep α) (now : Progress) :
    outcomeOn (look step) now = (step now.files, now) := by
  rw [look, outcomeOn_bind]
  change outcomeOn (MonadExcept.ofExcept (step now.files)) now = _
  cases step now.files <;> rfl

theorem outcomeOn_save (p : Path) (text : String) (now : Progress) :
    outcomeOn (save p text) now =
      match now.files.write p text with
      | .ok files => (.ok (), { now with files := files })
      | .error refusal =>
        (.error (writeStop p refusal), { now with files := refusal.left now.files }) := by
  rw [save, outcomeOn_bind]
  change outcomeOn (match now.files.write p text with | .ok _ => _ | .error _ => _) now = _
  cases now.files.write p text <;> rfl

theorem outcomeOn_print (c : Console) (notices : List Notice) (now : Progress) :
    outcomeOn (print c notices) now =
      (uncaught (liftMisuse (now.showAll c notices).1), (now.showAll c notices).2) := by
  rw [print, outcomeOn_bind]
  change outcomeOn (MonadExcept.ofExcept (uncaught (liftMisuse (now.showAll c notices).1)))
    (now.showAll c notices).2 = _
  cases (now.showAll c notices).1 <;> rfl

/-! ### Showing notices -/

private theorem showAll_cons (c : Console) (n : Notice) (ns : List Notice) :
    c.showAll (n :: ns) = c.lines n >>= fun lines => (lines ++ ·) <$> c.showAll ns := by
  simp only [Console.showAll, List.mapM_cons]
  cases c.lines n with
  | error how => rfl
  | ok lines => cases ns.mapM c.lines <;> rfl

/-- Showing notices adds lines to what is shown and leaves everything else as it is. It comes to the
fault of the first notice that is refused, and the lines are all there are if none is. -/
theorem Progress.showAll_eq (now : Progress) (c : Console) (notices : List Notice) :
    ∃ how lines, now.showAll c notices = (how, { now with shown := now.shown ++ lines }) ∧
      c.showAll notices = how.map fun _ => lines := by
  induction notices generalizing now with
  | nil => exact ⟨.ok (), [], by rw [Progress.showAll, List.append_nil], rfl⟩
  | cons n ns ih =>
    rw [Progress.showAll, showAll_cons]
    cases c.lines n with
    | error how => exact ⟨.error how, [], by rw [List.append_nil], rfl⟩
    | ok first =>
      obtain ⟨how, rest, hshow, hall⟩ := ih { now with shown := now.shown ++ first }
      refine ⟨how, first ++ rest, ?_, ?_⟩
      · rw [← List.append_assoc]
        exact hshow
      · rw [hall]
        cases how <;> rfl

/-! ### Parts of a run -/

private theorem outcomeOn_look_bind {β : Type} {step : Workspace → CommandStep α}
    {k : α → Running β} {now : Progress} {next : α → CommandStep β}
    (h : ∀ a, outcomeOn (k a) now = (next a, now)) :
    outcomeOn (look step >>= k) now = (step now.files >>= next, now) := by
  rw [outcomeOn_bind, outcomeOn_look]
  cases step now.files with
  | error stop => rfl
  | ok a => exact h a

/-- All steps up to generation leave everything as it is. -/
theorem outcomeOn_generating (o : Options) (env : Surroundings) (now : Progress) :
    outcomeOn (o.generating env) now = (o.generate (env.withFiles now.files), now) :=
  outcomeOn_look_bind fun _ => outcomeOn_look_bind fun _ => outcomeOn_look_bind fun _ =>
    outcomeOn_look_bind fun _ => outcomeOn_look_bind fun _ => outcomeOn_look_bind fun _ =>
      outcomeOn_look _ now

/-- The files that delivering a text leaves of those that are there. -/
def Options.leaves (o : Options) (files : Workspace) (out : CommandOutput) : Workspace :=
  if Assigned.text o.output = "" then files
  else match files.write (.ofText (Assigned.text o.output)) (out.text ++ "\n") with
    | .ok written => written
    | .error refusal => refusal.left files

theorem outcomeOn_delivering (o : Options) (env : Surroundings) (out : CommandOutput)
    (now : Progress) :
    outcomeOn (o.delivering env.console out) now =
      match deliver o (env.withFiles now.files) out with
      | .ok e => outcomeOn (print env.console e.notices) { now with files := e.files }
      | .error stop => (.error stop, { now with files := o.leaves now.files out }) := by
  rw [Options.delivering, deliver]
  split
  · rfl
  next hnamed =>
    have hnamed : Assigned.text o.output ≠ "" := fun hnone => hnamed (String.isEmpty_iff.mpr hnone)
    rw [outcomeOn_bind, outcomeOn_save, Options.leaves, if_neg hnamed]
    simp only [Surroundings.withFiles]
    cases now.files.write (.ofText (Assigned.text o.output)) (out.text ++ "\n") <;> rfl

/-- Delivering succeeds by leaving the files as they are if no output file is named, and by writing
it otherwise. -/
theorem deliver_eq_ok {o : Options} {env : Surroundings} {out : CommandOutput} {e : CommandEnd}
    (h : deliver o env out = .ok e) :
    e.code = 0 ∧ if Assigned.text o.output = "" then e.files = env.files
      else env.files.write (.ofText (Assigned.text o.output)) (out.text ++ "\n") = .ok e.files := by
  rw [deliver] at h
  split at h
  next hempty =>
    obtain rfl := Except.ok.inj h
    exact ⟨rfl, by rw [if_pos (String.isEmpty_iff.mp hempty)]⟩
  next hempty =>
    obtain ⟨files, hfiles, h⟩ := bind_eq_ok_iff.mp h
    obtain rfl := Except.ok.inj h
    refine ⟨rfl, ?_⟩
    rw [if_neg fun hnone => hempty (String.isEmpty_iff.mpr hnone)]
    exact mapError_eq_ok_iff.mp hfiles

private theorem files_of_deliver {o : Options} {env : Surroundings} {out : CommandOutput}
    {e : CommandEnd} (h : deliver o env out = .ok e) : e.files = o.leaves env.files out := by
  have hfiles := (deliver_eq_ok h).2
  rw [Options.leaves]
  split at hfiles
  next hnone => rw [if_pos hnone, hfiles]
  next hnamed => rw [if_neg hnamed, hfiles]

theorem deliver_eq_error {o : Options} {env : Surroundings} {out : CommandOutput}
    {stop : CommandStop} (h : deliver o env out = .error stop) :
    ∃ refusal, Assigned.text o.output ≠ "" ∧
      env.files.write (.ofText (Assigned.text o.output)) (out.text ++ "\n") = .error refusal ∧
      stop = writeStop (.ofText (Assigned.text o.output)) refusal ∧
      o.leaves env.files out = refusal.left env.files := by
  rw [deliver] at h
  split at h
  · cases h
  next hnamed =>
    have hnamed : Assigned.text o.output ≠ "" := fun hnone => hnamed (String.isEmpty_iff.mpr hnone)
    dsimp only at h
    cases hwrite : env.files.write (.ofText (Assigned.text o.output)) (out.text ++ "\n") with
    | ok written =>
      rw [hwrite] at h
      cases h
    | error refusal =>
      rw [hwrite] at h
      obtain rfl := Except.error.inj h
      exact ⟨refusal, hnamed, rfl, rfl, by rw [Options.leaves, if_neg hnamed, hwrite]⟩

/-! ### The whole run -/

/-- What options let the command generate, if it gets that far. -/
def Options.generated? (o : Options) (env : Surroundings) : Option CommandOutput :=
  if (o.logLevel matches .nothing) || o.listTargets then none else (o.generate env).toOption

/-- The files that a run under options leaves. -/
def Options.filesLeft (o : Options) (env : Surroundings) : Workspace :=
  match o.generated? env with
  | some out => o.leaves env.files out
  | none => env.files

theorem Options.generated?_eq_some {o : Options} {env : Surroundings} {out : CommandOutput}
    (h : o.generated? env = some out) : o.generate env = .ok out := by
  rw [Options.generated?] at h
  exact toOption_eq_some_iff.mp (Option.ite_none_left_eq_some.mp h).2

private theorem showTargets_eq_ok {env : Surroundings} {e : CommandEnd}
    (h : showTargets env = .ok e) : e.code = 0 ∧ e.files = env.files := by
  obtain ⟨rows, -, h⟩ := bind_eq_ok_iff.mp h
  obtain rfl := Except.ok.inj h
  exact ⟨rfl, rfl⟩

/-- A run under options comes to what `runOptions` says, with the notices of its end shown. -/
theorem outcomeOn_running (o : Options) (env : Surroundings) :
    outcomeOn (o.running env) (.start env.files) =
      match runOptions o env with
      | .ok e => outcomeOn (print env.console e.notices) ⟨e.files, o.generated? env, []⟩
      | .error stop => (.error stop, ⟨o.filesLeft env, o.generated? env, []⟩) := by
  rw [Options.running, runOptions, Options.filesLeft, Options.generated?, outcomeOn_bind,
    outcomeOn_look]
  cases o.logLevel with
  | nothing => rfl
  | value level =>
    cases o.listTargets with
    | true =>
      change outcomeOn (look _ >>= _) _ = match showTargets env with | .ok e => _ | .error stop => _
      rw [outcomeOn_bind, outcomeOn_look, env.withFiles_start]
      cases h : showTargets env with
      | error stop => rfl
      | ok e =>
        dsimp only
        rw [(showTargets_eq_ok h).2]
        rfl
    | false =>
      change outcomeOn (o.generating env >>= _) _ =
        match o.generate env >>= fun out => deliver o env out with | .ok e => _ | .error stop => _
      rw [outcomeOn_bind, outcomeOn_generating, env.withFiles_start]
      cases h : o.generate env with
      | error stop => rfl
      | ok out => exact outcomeOn_delivering o env out ⟨env.files, some out, []⟩

theorem runOptions_of_generated? {o : Options} {env : Surroundings} {out : CommandOutput}
    (h : o.generated? env = some out) : runOptions o env = deliver o env out := by
  rw [runOptions, Options.generated?_eq_some h]
  rw [Options.generated?] at h
  cases hlevel : o.logLevel with
  | nothing =>
    rw [hlevel] at h
    cases h
  | value level =>
    cases hlist : o.listTargets with
    | true =>
      rw [hlevel, hlist] at h
      cases h
    | false => rfl

theorem runOptions_eq_ok_of_none {o : Options} {env : Surroundings} {e : CommandEnd}
    (hnone : o.generated? env = none) (h : runOptions o env = .ok e) :
    o.listTargets = true ∧ e.code = 0 ∧ e.files = env.files := by
  rw [runOptions] at h
  rw [Options.generated?] at hnone
  cases hlevel : o.logLevel with
  | nothing =>
    rw [hlevel] at h
    cases h
  | value level =>
    rw [hlevel] at h hnone
    cases hlist : o.listTargets with
    | true =>
      rw [hlist] at h
      exact ⟨rfl, showTargets_eq_ok h⟩
    | false =>
      rw [hlist] at h hnone
      obtain ⟨out, hout, -⟩ := bind_eq_ok_iff.mp h
      cases (toOption_eq_some_iff.mpr hout).symm.trans hnone

theorem runOptions_eq_ok {o : Options} {env : Surroundings} {e : CommandEnd}
    (h : runOptions o env = .ok e) : e.code = 0 ∧ e.files = o.filesLeft env := by
  rw [Options.filesLeft]
  cases hgenerated : o.generated? env with
  | none => exact (runOptions_eq_ok_of_none hgenerated h).2
  | some out =>
    rw [runOptions_of_generated? hgenerated] at h
    exact ⟨(deliver_eq_ok h).1, files_of_deliver h⟩

theorem filesLeft_of_reported {o : Options} {env : Surroundings} {messages : List String}
    (h : runOptions o env = .error (.reported messages)) : o.filesLeft env = env.files := by
  rw [Options.filesLeft]
  cases hgenerated : o.generated? env with
  | none => rfl
  | some out =>
    rw [runOptions_of_generated? hgenerated] at h
    obtain ⟨refusal, -, -, hstop, hleft⟩ := deliver_eq_error h
    cases refusal with
    | refused => exact hleft
    | nullInPath | cutShort => cases hstop

/-- **The command does what it is said to do.** Its steps one after the other, on the files as they
are by then, come to the same code, the same lines and the same files, or to the same fault. -/
theorem runCommand_eq_runStepwise (args : List String) (env : Surroundings) :
    runCommand args env = (runStepwise args env).1.map fun code =>
      ⟨code, (runStepwise args env).2.shown, (runStepwise args env).2.files⟩ := by
  rw [runCommand, runStepwise]
  cases Options.read args with
  | error usage => cases usage <;> rfl
  | ok o =>
    dsimp only
    rw [outcomeOn_running]
    cases hrun : runOptions o env with
    | ok e =>
      obtain ⟨how, lines, hshow, hall⟩ :=
        Progress.showAll_eq ⟨e.files, o.generated? env, []⟩ env.console e.notices
      dsimp only
      rw [outcomeOn_print, hshow, CommandEnd.result, hall, (runOptions_eq_ok hrun).1]
      cases how <;> rfl
    | error stop =>
      cases stop with
      | uncaught f => rfl
      | reported messages =>
        obtain ⟨how, lines, hshow, hall⟩ := Progress.showAll_eq
          ⟨o.filesLeft env, o.generated? env, []⟩ env.console (messages.map .message)
        dsimp only
        rw [hshow, CommandEnd.result, hall, filesLeft_of_reported hrun]
        cases how <;> rfl

theorem runStepwise_eq {args : List String} {o : Options} (hread : Options.read args = .ok o)
    (env : Surroundings) :
    (runStepwise args env).2.generated = o.generated? env ∧
      (runStepwise args env).2.files = o.filesLeft env := by
  rw [runStepwise, hread]
  dsimp only
  rw [outcomeOn_running]
  cases hrun : runOptions o env with
  | ok e =>
    obtain ⟨how, lines, hshow, -⟩ :=
      Progress.showAll_eq ⟨e.files, o.generated? env, []⟩ env.console e.notices
    dsimp only
    rw [outcomeOn_print, hshow, (runOptions_eq_ok hrun).2]
    cases how <;> exact ⟨rfl, rfl⟩
  | error stop =>
    cases stop with
    | uncaught f => exact ⟨rfl, rfl⟩
    | reported messages =>
      obtain ⟨how, lines, hshow, -⟩ := Progress.showAll_eq
        ⟨o.filesLeft env, o.generated? env, []⟩ env.console (messages.map .message)
      dsimp only
      rw [hshow]
      exact ⟨rfl, rfl⟩

private theorem result_eq_ok {e : CommandEnd} {c : Console} {r : CommandResult}
    (h : e.result c = .ok r) : r.code = e.code ∧ r.files = e.files := by
  obtain ⟨lines, -, h⟩ := bind_eq_ok_iff.mp h
  obtain rfl := Except.ok.inj h
  exact ⟨rfl, rfl⟩

/-- A command that ends with a code under options has ended with messages, or all its steps have
succeeded. -/
theorem runCommand_eq_ok {args : List String} {env : Surroundings} {o : Options}
    {r : CommandResult} (hread : Options.read args = .ok o) (hr : runCommand args env = .ok r) :
    (r.code = 1 ∧ r.files = env.files) ∨
      ∃ e, runOptions o env = .ok e ∧ r.code = 0 ∧ r.files = e.files := by
  rw [runCommand, hread] at hr
  dsimp only at hr
  cases hrun : runOptions o env with
  | ok e =>
    rw [hrun] at hr
    obtain ⟨hcode, hfiles⟩ := result_eq_ok hr
    exact .inr ⟨e, rfl, hcode.trans (runOptions_eq_ok hrun).1, hfiles⟩
  | error stop =>
    rw [hrun] at hr
    cases stop with
    | uncaught f => cases hr
    | reported messages => exact .inl (result_eq_ok hr)

/-! ### The files at the end -/

/-- Where a run ends with nothing generated, all files are as they were. -/
theorem files_of_generated_eq_none {args : List String} {env : Surroundings}
    (h : (runStepwise args env).2.generated = none) :
    (runStepwise args env).2.files = env.files := by
  cases hread : Options.read args with
  | error usage =>
    rw [runStepwise, hread]
    cases usage <;> rfl
  | ok o =>
    obtain ⟨hgenerated, hfiles⟩ := runStepwise_eq hread env
    rw [hgenerated] at h
    rw [hfiles, Options.filesLeft, h]

/-- Where a run ends with something generated, this is what its options let it generate. The files
are as they were, or have it in the output file, or the output file has been cut short and the
command ends by a fault. -/
theorem files_of_generated_eq_some {args : List String} {env : Surroundings} {out : CommandOutput}
    (h : (runStepwise args env).2.generated = some out) :
    ∃ o, Options.read args = .ok o ∧ o.generate env = .ok out ∧
      ((runStepwise args env).2.files = env.files ∨
        env.files.write (.ofText (Assigned.text o.output)) (out.text ++ "\n") =
          .ok (runStepwise args env).2.files ∨
        env.files.write (.ofText (Assigned.text o.output)) (out.text ++ "\n") =
            .error (.cutShort (runStepwise args env).2.files) ∧
          runCommand args env = misused .notEncodable) := by
  cases hread : Options.read args with
  | error usage =>
    rw [runStepwise, hread] at h
    cases usage <;> cases h
  | ok o =>
    obtain ⟨hgenerated, hfiles⟩ := runStepwise_eq hread env
    rw [hgenerated] at h
    refine ⟨o, rfl, Options.generated?_eq_some h, ?_⟩
    rw [hfiles, Options.filesLeft, h]
    dsimp only
    cases hdeliver : deliver o env out with
    | ok e =>
      have hwritten := (deliver_eq_ok hdeliver).2
      rw [files_of_deliver hdeliver] at hwritten
      split at hwritten
      · exact .inl hwritten
      · exact .inr (.inl hwritten)
    | error stop =>
      obtain ⟨refusal, -, hwrite, rfl, hleft⟩ := deliver_eq_error hdeliver
      rw [hleft]
      cases refusal with
      | refused | nullInPath => exact .inl rfl
      | cutShort left =>
        refine .inr (.inr ⟨hwrite, ?_⟩)
        rw [runCommand, hread]
        dsimp only
        rw [runOptions_of_generated? h, hdeliver]
        rfl

/-- A command that ends with another code than zero leaves all files as they were. -/
theorem files_of_code_ne_zero {args : List String} {env : Surroundings} {r : CommandResult}
    (h : runCommand args env = .ok r) (hcode : r.code ≠ 0) : r.files = env.files := by
  cases hread : Options.read args with
  | error usage =>
    rw [runCommand, hread] at h
    cases usage <;> exact Except.ok.inj h ▸ rfl
  | ok o =>
    obtain ⟨-, hsame⟩ | ⟨e, -, hzero, -⟩ := runCommand_eq_ok hread h
    · exact hsame
    · exact absurd hzero hcode

/-- A command that ends with code zero has written what its options let it generate, if they name
an output file and do not ask for the list of targets. -/
theorem write_of_code_eq_zero {args : List String} {env : Surroundings} {o : Options}
    {r : CommandResult} (hread : Options.read args = .ok o) (hlist : o.listTargets = false)
    (hnamed : Assigned.text o.output ≠ "") (h : runCommand args env = .ok r)
    (hcode : r.code = 0) :
    ∃ out, o.generate env = .ok out ∧
      env.files.write (.ofText (Assigned.text o.output)) (out.text ++ "\n") = .ok r.files := by
  obtain ⟨hone, -⟩ | ⟨e, hrun, -, hfiles⟩ := runCommand_eq_ok hread h
  · exact absurd (hone.symm.trans hcode) Nat.one_ne_zero
  · cases hgenerated : o.generated? env with
    | none => cases hlist.symm.trans (runOptions_eq_ok_of_none hgenerated hrun).1
    | some out =>
      rw [runOptions_of_generated? hgenerated] at hrun
      have hwritten := (deliver_eq_ok hrun).2
      rw [if_neg hnamed, ← hfiles] at hwritten
      exact ⟨out, Options.generated?_eq_some hgenerated, hwritten⟩

end PageMarkup
