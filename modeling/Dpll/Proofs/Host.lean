import Dpll.CommandLine.Run
import Dpll.World
import Dpll.Proofs.Tree
import Dpll.Proofs.Report
import Dpll.Proofs.Search.Interruption

/-!
What the parts of the program do to a world. Reading and searching leave it as it is, and what is
said on the way adds to its notices and to nothing else. Main statement: whatever the clock says, a
formula that was read is answered as it is without a limit, or its search is interrupted.
-/

namespace Dpll

namespace Search

/-- A clock that does nothing but answer is a schedule. -/
theorem run_pure {m : Type → Type} [Monad m] [LawfulMonad m] (schedule : Schedule) (visited : Nat)
    (frames : List Frame) (s : Search) :
    run (m := m) (fun n => pure (schedule n)) visited frames s =
      pure (runFrom schedule visited frames s) := by
  induction hb : budget s frames using Nat.strongRecOn generalizing visited frames s with
  | ind n ih =>
    rw [run, runFrom_eq]
    simp only [pure_bind]
    split
    next heq => rw [heq]
    next heq =>
      rw [heq]
      exact ih _ (hb ▸ budget_turn heq) _ _ _ rfl

end Search

namespace Formula

/-- A clock can interrupt the search, but it cannot change the answer. -/
theorem solve_cases {text : String} {f : Formula} (h : parse text = .ok f) (schedule : Schedule) :
    (∃ r, f.solve schedule = .ok r ∧ Report.ofText text = .ok r) ∨
      ∃ n visited, f.solve schedule = .error (.interrupted n) ∧
        (schedule visited).stops = true := by
  obtain ⟨p, hp, htrail, -⟩ := exists_problem h
  have hready : (Search.new p.trail).Ready p := Search.ready_new (.new p) rfl
  have hended := Search.ended_solve hp hready schedule
  have hfree := Search.solve_eq_unlimited schedule (Search.new p.trail)
  rw [Report.ofText_eq h, solve, solve, ← htrail]
  generalize (Search.new p.trail).solve schedule = r at hended hfree
  cases hended with
  | interrupted hstop => exact .inr ⟨_, _, rfl, hstop⟩
  | solved | unsat =>
    rw [← hfree (fun _ _ => by simp)]
    exact .inl ⟨_, rfl, rfl⟩
  | notEmpty _ _ hne => exact absurd rfl hne

lemma exists_toUTF8 {bytes : ByteArray} (h : bytes.IsValidUTF8) :
    ∃ text : String, text.toUTF8 = bytes :=
  ⟨String.fromUTF8 bytes h, rfl⟩

lemma decode_toUTF8 (text : String) : decode text.toUTF8 = (parse text).mapError .parse := by
  have htext : decodeText text.toUTF8 = .ok text := by
    have hvalid : text.toUTF8.IsValidUTF8 := text.isValidUTF8
    rw [decodeText, String.fromUTF8?, dif_pos hvalid]
    rfl
  rw [decode, htext]
  rfl

lemma decode_of_not_valid {bytes : ByteArray} (h : ¬ bytes.IsValidUTF8) :
    decode bytes = .error (.file .invalidText) := by
  have htext : decodeText bytes = .error .invalidText := by
    rw [decodeText, String.fromUTF8?, dif_neg h]
  rw [decode, htext]
  rfl

end Formula

/-- Grounds of the system for not opening a file, such as a lack of rights. -/
structure Guard where
  reading : String → Option FileError := fun _ => none
  writing : String → Option FileError := fun _ => none

namespace Guard

def read (g : Guard) (t : FileTree) (path : String) : Except FileError ByteArray :=
  (g.reading path).elim (t.read path) .error

def write (g : Guard) (t : FileTree) (path : String) (bytes : ByteArray) :
    Except FileError FileTree :=
  (g.writing path).elim (t.write path bytes) .error

/-- The host of a world whose files are guarded. -/
def host (g : Guard) : Host (StateM World) :=
  { World.host with
    read := fun path w => (g.read w.files path, w)
    write := fun path bytes w =>
      match g.write w.files path bytes with
      | .error e => (.error e, w)
      | .ok files => (.ok (), { w with files }) }

/-- Without a guard it is the host of the world itself. -/
lemma host_default : ({} : Guard).host = World.host := rfl

/-- The formula in a file. -/
def formula (g : Guard) (t : FileTree) (path : String) : Except Error Formula := do
  let bytes ← (g.read t path).mapError .file
  Formula.decode bytes

section Files

variable {g : Guard} {t t' : FileTree} {path : String} {bytes : ByteArray}

lemma formula_of_error {e : FileError} (h : g.read t path = .error e) :
    g.formula t path = .error (.file e) := by
  rw [formula, h]
  rfl

lemma formula_of_read (h : g.read t path = .ok bytes) :
    g.formula t path = Formula.decode bytes := by
  rw [formula, h]
  rfl

lemma formula_of_text {text : String} (h : g.read t path = .ok text.toUTF8) :
    g.formula t path = (Formula.parse text).mapError .parse := by
  rw [formula_of_read h, Formula.decode_toUTF8]

lemma replaced_of_write (h : g.write t path bytes = .ok t') : t.Replaced path bytes t' := by
  unfold write at h
  cases hwriting : g.writing path with
  | some e =>
    rw [hwriting] at h
    cases h
  | none =>
    rw [hwriting] at h
    exact FileTree.replaced_of_write h

end Files

end Guard

namespace World

/-- The world after these notices, the latest first. -/
def hear (w : World) (notices : List Notice) : World :=
  { w with notices := notices ++ w.notices }

lemma hear_hear (w : World) (notices notices' : List Notice) :
    (w.hear notices).hear notices' = w.hear (notices' ++ notices) := by
  simp [hear]

lemma bind_apply {α β : Type} (act : StateM World α) (f : α → StateM World β) (w : World) :
    (act >>= f) w = f (act w).1 (act w).2 := rfl

/-- An action that does nothing but talk. -/
def Talks {α : Type} (act : StateM World α) : Prop :=
  ∀ w, ∃ a notices, act w = (a, w.hear notices)

lemma talks_pure {α : Type} (a : α) : Talks (pure a) :=
  fun _ => ⟨a, [], rfl⟩

lemma Talks.bind {α β : Type} {act : StateM World α} {f : α → StateM World β}
    (h : Talks act) (hf : ∀ a, Talks (f a)) : Talks (act >>= f) := by
  intro w
  obtain ⟨a, notices, hact⟩ := h w
  obtain ⟨b, notices', hb⟩ := hf a (w.hear notices)
  refine ⟨b, notices' ++ notices, ?_⟩
  rw [bind_apply, hact, hb, hear_hear]

end World

namespace Guard

open World

variable (g : Guard) (w : World)

lemma talks_notify (notice : Notice) : Talks (g.host.notify notice) :=
  fun _ => ⟨(), [notice], rfl⟩

lemma talks_elapsed : Talks g.host.elapsed :=
  talks_pure 0

lemma talks_logAll (filter : CommandLine.Filter) (records : List Record) :
    Talks (CommandLine.logAll g.host filter records) := by
  unfold CommandLine.logAll
  induction records.filter filter with
  | nil => exact talks_pure ()
  | cons record records ih =>
    rw [List.forM_eq_forM, List.forM_cons]
    exact (g.talks_notify _).bind fun _ => ih

lemma talks_printStats (stats : Stats) : Talks (CommandLine.printStats g.host stats) := by
  unfold CommandLine.printStats
  iterate 5 refine (g.talks_notify _).bind fun _ => ?_
  exact g.talks_elapsed.bind fun _ => g.talks_notify _

lemma readFile_apply (path : String) :
    Formula.readFile g.host path w = (g.formula w.files path, w) := by
  have hread : g.host.read path w = (g.read w.files path, w) := rfl
  rw [Formula.readFile, bind_apply, hread, formula]
  cases g.read w.files path <;> rfl

/-- The clock that was started is the schedule of the search. -/
lemma solveWithin_apply (f : Formula) (timeout : Option Nat) :
    ∃ s, f.solveWithin g.host timeout w = ((f.solve (w.clock timeout), s), w) := by
  have hclock : g.host.startClock timeout w =
      (fun visited => pure (w.clock timeout visited), w) := rfl
  have hsearch : (Search.new f.trail).solveAsking (m := StateM World)
      (fun visited => pure (w.clock timeout visited)) =
        pure ((Search.new f.trail).solve (w.clock timeout)) :=
    Search.run_pure _ _ _ _
  rw [Formula.solveWithin, bind_apply, hclock]
  dsimp only
  rw [hsearch, Formula.solve, pure_bind]
  cases (Search.new f.trail).solve (w.clock timeout) with
  | ok solution s | error stop s => exact ⟨s, rfl⟩

lemma writeFile_apply (r : Report) (path : String) :
    r.writeFile g.host path w =
      match g.write w.files path r.bytes with
      | .error e => (.error e, w)
      | .ok files => (.ok (), { w with files }) := rfl

end Guard

end Dpll
