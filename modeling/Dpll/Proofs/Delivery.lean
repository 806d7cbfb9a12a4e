import Mathlib
import Dpll.Proofs.Host

/-!
What a run of the program leaves behind. A run is a chain of steps that can fail, and the write is
the last of them. Main statement: the program ends with code 0, the report in its output file and
nothing else changed, or with code 1 and nothing changed at all. It is the latter exactly if the
input cannot be read, is no text or has a malformed line, if the search is interrupted, or if the
output cannot be opened. This is so however the arguments are read, the log is filtered and errors
are laid out.
-/

namespace Dpll

/-- Answers one file in another, without a program around it. -/
def Report.deliver {m : Type → Type} [Monad m] (host : Host m) (timeout : Option Nat)
    (input output : String) : m (Except Error Unit) := do
  match ← Report.ofFile host timeout input with
  | .error e => return .error e
  | .ok r => return (← r.writeFile host output).mapError .file

open CommandLine (Failure)

namespace Guard

open World

/-- The report on a file, if there is one before the clock stops the search. -/
def report (g : Guard) (w : World) (timeout : Option Nat) (input : String) :
    Except Failure Report := do
  let f ← (g.formula w.files input).mapError (.reading input)
  (f.solve (w.clock timeout)).mapError .searching

/-- The files once the report has been written. -/
def delivery (g : Guard) (w : World) (timeout : Option Nat) (input output : String) :
    Except Failure FileTree := do
  let r ← g.report w timeout input
  (g.write w.files output r.bytes).mapError (.writing output)

section Steps

variable {g : Guard} {w : World} {timeout : Option Nat} {input output : String}

lemma report_of_unreadable {e : Error} (h : g.formula w.files input = .error e) :
    g.report w timeout input = .error (.reading input e) := by
  rw [report, h]
  rfl

lemma report_of_readable {f : Formula} (h : g.formula w.files input = .ok f) :
    g.report w timeout input = (f.solve (w.clock timeout)).mapError .searching := by
  rw [report, h]
  rfl

lemma report_of_text {text : String} {f : Formula}
    (hread : g.read w.files input = .ok text.toUTF8) (hparse : Formula.parse text = .ok f) :
    g.report w timeout input = (f.solve (w.clock timeout)).mapError .searching := by
  apply report_of_readable
  rw [formula_of_text hread, hparse]
  rfl

lemma report_of_solve {text : String} {f : Formula} {r : Report}
    (hread : g.read w.files input = .ok text.toUTF8) (hparse : Formula.parse text = .ok f)
    (hsolve : f.solve (w.clock timeout) = .ok r) : g.report w timeout input = .ok r := by
  rw [report_of_text hread hparse, hsolve]
  rfl

lemma delivery_of_failure {failure : Failure} (h : g.report w timeout input = .error failure) :
    g.delivery w timeout input output = .error failure := by
  rw [delivery, h]
  rfl

lemma delivery_of_report {r : Report} (h : g.report w timeout input = .ok r) :
    g.delivery w timeout input output =
      (g.write w.files output r.bytes).mapError (.writing output) := by
  rw [delivery, h]
  rfl

end Steps

section Effects

variable (g : Guard) (w : World)

lemma prepare_apply (filter : CommandLine.Filter) (options : CommandLine.Options) :
    ∃ notices, CommandLine.prepare g.host filter options w =
      (g.report w options.timeout options.input, w.hear notices) := by
  rw [CommandLine.prepare, bind_apply, readFile_apply]
  cases hformula : g.formula w.files options.input with
  | error e =>
    rw [report_of_unreadable hformula]
    exact ⟨[], rfl⟩
  | ok f =>
    obtain ⟨_, notices, hlog⟩ := g.talks_logAll filter [.ofSizes f.sizes] w
    obtain ⟨s, hsolve⟩ := g.solveWithin_apply (w.hear notices) f options.timeout
    obtain ⟨_, notices', hlog'⟩ := g.talks_logAll filter (s.events.map .ofEvent) (w.hear notices)
    refine ⟨notices' ++ notices, ?_⟩
    dsimp only
    rw [bind_apply, hlog, bind_apply, hsolve]
    dsimp only
    rw [bind_apply, hlog', hear_hear, report_of_readable hformula]
    rfl

/-- From the report on, only the write can fail. -/
lemma conclude_apply (filter : CommandLine.Filter) (output : String) (r : Report)
    (notices : List Notice) :
    ∃ notices', (do
      match ← r.writeFile g.host output with
      | .error e => return .error (.writing output e)
      | .ok () =>
        CommandLine.logAll g.host filter [.solved r.solution.isSat (← g.host.elapsed)]
        return .ok () : StateM World (Except Failure Unit)) (w.hear notices) =
      match (g.write w.files output r.bytes).mapError (Failure.writing output) with
      | .error failure => (.error failure, w.hear notices')
      | .ok files => (.ok (), { w.hear notices' with files }) := by
  have hfiles : (w.hear notices).files = w.files := rfl
  rw [bind_apply, writeFile_apply, hfiles]
  cases g.write w.files output r.bytes with
  | error e => exact ⟨notices, rfl⟩
  | ok files =>
    have helapsed : ∀ w, g.host.elapsed w = (0, w) := fun _ => rfl
    obtain ⟨_, notices', hlog⟩ :=
      g.talks_logAll filter [.solved r.solution.isSat 0] { w.hear notices with files }
    refine ⟨notices' ++ notices, ?_⟩
    dsimp only
    rw [bind_apply, helapsed, bind_apply, hlog]
    simp only [hear, List.append_assoc]
    rfl

/-- Talking apart, the program is the chain of steps. -/
lemma execute_apply (filter : CommandLine.Filter) (options : CommandLine.Options) :
    ∃ notices, CommandLine.execute g.host filter options w =
      match g.delivery w options.timeout options.input options.output with
      | .error failure => (.error failure, w.hear notices)
      | .ok files => (.ok (), { w.hear notices with files }) := by
  obtain ⟨notices, hprepare⟩ := g.prepare_apply w filter options
  rw [CommandLine.execute, bind_apply, hprepare]
  cases hreport : g.report w options.timeout options.input with
  | error failure =>
    rw [delivery_of_failure hreport]
    exact ⟨notices, rfl⟩
  | ok r =>
    rw [delivery_of_report hreport]
    dsimp only
    split
    · obtain ⟨_, notices', hstats⟩ := g.talks_printStats r.stats (w.hear notices)
      rw [bind_apply, hstats, hear_hear]
      exact g.conclude_apply w filter options.output r (notices' ++ notices)
    · exact g.conclude_apply w filter options.output r notices

lemma run_apply (kit : CommandLine.Toolkit) (setting : Option String) {args : List String}
    {options : CommandLine.Options} (h : kit.request args = .run options) :
    ∃ notices, CommandLine.run kit g.host setting args w =
      match g.delivery w options.timeout options.input options.output with
      | .error failure =>
        (failure.exitCode, w.hear (.failure (kit.layout failure.messages) :: notices))
      | .ok files => (0, { w.hear notices with files }) := by
  obtain ⟨notices, hexecute⟩ := g.execute_apply w (kit.filter setting options.verbosity) options
  refine ⟨notices, ?_⟩
  rw [CommandLine.run, h]
  dsimp only
  rw [bind_apply, hexecute]
  cases g.delivery w options.timeout options.input options.output <;> rfl

lemma ofFile_apply (timeout : Option Nat) (input : String) :
    Report.ofFile g.host timeout input w =
      ((g.report w timeout input).mapError Failure.error, w) := by
  rw [Report.ofFile, bind_apply, readFile_apply]
  cases hformula : g.formula w.files input with
  | error e =>
    rw [report_of_unreadable hformula]
    rfl
  | ok f =>
    obtain ⟨s, hsolve⟩ := g.solveWithin_apply w f timeout
    rw [report_of_readable hformula]
    dsimp only
    rw [bind_apply, hsolve]
    cases f.solve (w.clock timeout) <;> rfl

/-- Without a program around it, the chain is the same. -/
lemma deliver_apply (timeout : Option Nat) (input output : String) :
    Report.deliver g.host timeout input output w =
      match g.delivery w timeout input output with
      | .error failure => (.error failure.error, w)
      | .ok files => (.ok (), { w with files }) := by
  rw [Report.deliver, bind_apply, ofFile_apply]
  cases hreport : g.report w timeout input with
  | error failure =>
    rw [delivery_of_failure hreport]
    rfl
  | ok r =>
    rw [delivery_of_report hreport]
    have hok : (Except.ok r : Except Failure Report).mapError Failure.error = .ok r := rfl
    rw [hok]
    dsimp only
    rw [bind_apply, writeFile_apply]
    cases g.write w.files output r.bytes <;> rfl

end Effects

end Guard

/-- What keeps a report from being delivered, and the failure that then ends the run. -/
inductive Hindered (g : Guard) (w : World) (timeout : Option Nat) (input output : String) :
    Failure → Prop
  | unreadable {e : FileError} (hread : g.read w.files input = .error e) :
      Hindered g w timeout input output (.reading input (.file e))
  | notText {bytes : ByteArray} (hread : g.read w.files input = .ok bytes)
      (hbytes : ¬ bytes.IsValidUTF8) :
      Hindered g w timeout input output (.reading input (.file .invalidText))
  | malformed {text : String} {e : ParseError}
      (hread : g.read w.files input = .ok text.toUTF8)
      (hparse : Formula.parse text = .error e) :
      Hindered g w timeout input output (.reading input (.parse e))
  | interrupted {text : String} {f : Formula} {n visited : Nat}
      (hread : g.read w.files input = .ok text.toUTF8) (hparse : Formula.parse text = .ok f)
      (hsolve : f.solve (w.clock timeout) = .error (.interrupted n))
      (hstop : (w.clock timeout visited).stops = true) :
      Hindered g w timeout input output (.searching (.interrupted n))
  | unwritable {text : String} {f : Formula} {r : Report} {e : FileError}
      (hread : g.read w.files input = .ok text.toUTF8) (hparse : Formula.parse text = .ok f)
      (hsolve : f.solve (w.clock timeout) = .ok r)
      (hwrite : g.write w.files output r.bytes = .error e) :
      Hindered g w timeout input output (.writing output e)

/-- The report on what the input held has replaced what the output held, and nothing else has
happened to the files. -/
def Delivered (g : Guard) (w : World) (input output : String) (after : FileTree) : Prop :=
  ∃ text r, g.read w.files input = .ok text.toUTF8 ∧ Report.ofText text = .ok r ∧
    g.write w.files output r.bytes = .ok after ∧ w.files.Replaced output r.bytes after

section Outcome

variable {g : Guard} {w : World} {timeout : Option Nat} {input output : String}

lemma Hindered.exitCode_eq {failure : Failure} (h : Hindered g w timeout input output failure) :
    failure.exitCode = 1 := by
  cases h <;> rfl

lemma Hindered.delivery_eq {failure : Failure} (h : Hindered g w timeout input output failure) :
    g.delivery w timeout input output = .error failure := by
  cases h with
  | unreadable hread =>
    apply Guard.delivery_of_failure
    exact Guard.report_of_unreadable (Guard.formula_of_error hread)
  | notText hread hbytes =>
    apply Guard.delivery_of_failure
    apply Guard.report_of_unreadable
    rw [Guard.formula_of_read hread, Formula.decode_of_not_valid hbytes]
  | malformed hread hparse =>
    apply Guard.delivery_of_failure
    apply Guard.report_of_unreadable
    rw [Guard.formula_of_text hread, hparse]
    rfl
  | interrupted hread hparse hsolve =>
    apply Guard.delivery_of_failure
    rw [Guard.report_of_text hread hparse, hsolve]
    rfl
  | unwritable hread hparse hsolve hwrite =>
    rw [Guard.delivery_of_report (Guard.report_of_solve hread hparse hsolve), hwrite]
    rfl

/-- Whatever the input holds and the clock says, a run is hindered or delivers. -/
theorem delivered_or_hindered (g : Guard) (w : World) (timeout : Option Nat)
    (input output : String) :
    (∃ files, g.delivery w timeout input output = .ok files ∧ Delivered g w input output files) ∨
      ∃ failure, Hindered g w timeout input output failure := by
  cases hread : g.read w.files input with
  | error e => exact .inr ⟨_, .unreadable hread⟩
  | ok bytes =>
    by_cases hbytes : bytes.IsValidUTF8
    · obtain ⟨text, rfl⟩ := Formula.exists_toUTF8 hbytes
      cases hparse : Formula.parse text with
      | error e => exact .inr ⟨_, .malformed hread hparse⟩
      | ok f =>
        obtain ⟨r, hsolve, htext⟩ | ⟨n, visited, hsolve, hstop⟩ :=
          Formula.solve_cases hparse (w.clock timeout)
        · cases hwrite : g.write w.files output r.bytes with
          | error e => exact .inr ⟨_, .unwritable hread hparse hsolve hwrite⟩
          | ok files =>
            have hreport := Guard.report_of_solve hread hparse hsolve
            have hdelivery : g.delivery w timeout input output = .ok files := by
              rw [Guard.delivery_of_report hreport, hwrite]
              rfl
            exact .inl ⟨files, hdelivery, text, r, hread, htext, hwrite,
              Guard.replaced_of_write hwrite⟩
        · exact .inr ⟨_, .interrupted hread hparse hsolve hstop⟩
    · exact .inr ⟨_, .notText hread hbytes⟩

/-- A run delivers its report, or it fails for a reason and leaves every file as it was. -/
theorem run_all_or_nothing (g : Guard) (w : World) :
    (∀ (kit : CommandLine.Toolkit) setting args options, kit.request args = .run options →
      ∃ code w', CommandLine.run kit g.host setting args w = (code, w') ∧
        (code = 0 ∧ Delivered g w options.input options.output w'.files ∧
            (∀ failure,
              ¬ Hindered g w options.timeout options.input options.output failure) ∨
          code = 1 ∧ w'.files = w.files ∧
            ∃ failure, Hindered g w options.timeout options.input options.output failure ∧
              w'.notices.head? = some (.failure (kit.layout failure.messages)))) ∧
      ∀ timeout input output,
        ∃ result w', Report.deliver g.host timeout input output w = (result, w') ∧
          (result = .ok () ∧ Delivered g w input output w'.files ∧
              (∀ failure, ¬ Hindered g w timeout input output failure) ∨
            w'.files = w.files ∧
              ∃ failure, Hindered g w timeout input output failure ∧
                result = .error failure.error) := by
  have hnone : ∀ {timeout input output files},
      g.delivery w timeout input output = .ok files →
        ∀ failure, ¬ Hindered g w timeout input output failure := by
    intro timeout input output files hok failure hfailure
    cases hok.symm.trans hfailure.delivery_eq
  constructor
  · intro kit setting args options h
    obtain ⟨notices, hrun⟩ := g.run_apply w kit setting h
    obtain ⟨files, hok, hdelivered⟩ | ⟨failure, hfailure⟩ :=
      delivered_or_hindered g w options.timeout options.input options.output
    · rw [hok] at hrun
      exact ⟨_, _, hrun, .inl ⟨rfl, hdelivered, hnone hok⟩⟩
    · rw [hfailure.delivery_eq] at hrun
      exact ⟨_, _, hrun, .inr ⟨hfailure.exitCode_eq, rfl, failure, hfailure, rfl⟩⟩
  · intro timeout input output
    have hdeliver := g.deliver_apply w timeout input output
    obtain ⟨files, hok, hdelivered⟩ | ⟨failure, hfailure⟩ :=
      delivered_or_hindered g w timeout input output
    · rw [hok] at hdeliver
      exact ⟨_, _, hdeliver, .inl ⟨rfl, hdelivered, hnone hok⟩⟩
    · rw [hfailure.delivery_eq] at hdeliver
      exact ⟨_, _, hdeliver, .inr ⟨rfl, failure, hfailure, rfl⟩⟩

end Outcome

/-- Takes a path for the input and, behind `-o`, one for the output. -/
def CommandLine.Toolkit.sample : Toolkit where
  request args := match args with
    | [input, "-o", output] => .run { input, output }
    | _ => .refuse "there is no input or no output"
  filter? _ := none
  upTo level record := record.level.rank ≤ level.rank
  layout := ": ".intercalate

/-- A file that gives its place to its own report. It is read by its name from the root and written
by its name in the present folder. -/
theorem run_all_or_nothing_sample :
    ∃ options w',
      CommandLine.Toolkit.sample.request ["/work/in.txt", "-o", "./in.txt"] = .run options ∧
      CommandLine.run .sample World.host none ["/work/in.txt", "-o", "./in.txt"]
        { files := { folders := [["work"]], current := ["work"]
                     files := [(["work", "in.txt"], "7 3\n0\nend\n".toUTF8)] }
          clock := fun _ => .unlimited } = (0, w') ∧
      w'.files.content? ["work", "in.txt"] = some "3 F\n7 T\n0\nend".toUTF8 := by
  let t : FileTree := { folders := [["work"]], current := ["work"]
                        files := [(["work", "in.txt"], "7 3\n0\nend\n".toUTF8)] }
  let w : World := { files := t, clock := fun _ => .unlimited }
  let f : Formula :=
    ⟨.ofIds [7, 3], [{ literals := [.pack 0 .positive, .pack 1 .positive] }], "end"⟩
  have hargs : CommandLine.Toolkit.sample.request ["/work/in.txt", "-o", "./in.txt"] =
      .run { input := "/work/in.txt", output := "./in.txt" } := rfl
  have hin : t.locate "/work/in.txt" = .ok (.file ["work", "in.txt"]) := by
    cbv
  have hout : t.locate "./in.txt" = .ok (.file ["work", "in.txt"]) := by
    cbv
  have hread : ({} : Guard).read t "/work/in.txt" = .ok "7 3\n0\nend\n".toUTF8 := by
    change t.read "/work/in.txt" = _
    rw [FileTree.read, hin]
    rfl
  have hsame : ∀ {text : String}, ({} : Guard).read t "/work/in.txt" = .ok text.toUTF8 →
      text = "7 3\n0\nend\n" := by
    intro text h
    exact String.toByteArray_inj.mp (Except.ok.inj (h.symm.trans hread))
  have hparse : Formula.parse "7 3\n0\nend\n" = .ok f := by
    cbv
  have hrender : (Report.ofText "7 3\n0\nend\n").toOption.map Report.render =
      some "3 F\n7 T\n0\nend" := by
    rw [Report.ofText_eq hparse, Formula.solve, Search.solve_eq, Search.runFrom_eq]
    cbv
  obtain ⟨code, w', hrun, h⟩ := (run_all_or_nothing {} w).1 .sample none _ _ hargs
  rw [Guard.host_default] at hrun
  obtain ⟨rfl, ⟨text, r, htext, hr, -, hreplaced⟩, -⟩ | ⟨-, -, failure, hfailure, -⟩ := h
  · refine ⟨_, w', hargs, hrun, ?_⟩
    have htarget : t.target? "./in.txt" = some ["work", "in.txt"] := by
      rw [FileTree.target?, hout]
    obtain ⟨p, hp, hcontent⟩ := hreplaced.content?_eq
    cases htarget.symm.trans hp
    rw [hsame htext] at hr
    rw [hr] at hrender
    rw [hcontent, if_pos rfl, Report.bytes, Option.some.inj hrender]
  · cases hfailure with
    | unreadable h => cases hread.symm.trans h
    | notText h hbytes =>
      cases hread.symm.trans h
      exact absurd (String.isValidUTF8 _) hbytes
    | malformed h hmalformed =>
      rw [hsame h] at hmalformed
      cases hparse.symm.trans hmalformed
    | interrupted _ _ _ hstop => exact absurd hstop (Search.not_stops_unlimited 0)
    | unwritable _ _ _ hwrite =>
      change t.write "./in.txt" _ = _ at hwrite
      rw [FileTree.write, hout] at hwrite
      cases hwrite

end Dpll
