import DialogueTree.Disk.TreeFiles
import DialogueTree.Proofs.Disk.FileTree
import DialogueTree.Proofs.Outcome

/-!
# Programs on file trees

What a program that may fail comes to on a file tree: its outcome, and the file tree after it. Most
programs only read, and leave the file tree as it is.

Results:
* `eval_bind`, `exec_bind`: one program after another.
* `reads_readTrees`, `reads_readGlobals`: programs that only read.
-/

namespace DialogueTree.FileTree

variable {ε ε' α β : Type} (t : FileTree)

/-- What a program that cannot fail comes to on a file tree. -/
def eval (x : StateM FileTree α) : α × FileTree := (x.run t).run

theorem eval_bind {x : StateM FileTree α} {a : α} {t' : FileTree} (h : t.eval x = (a, t'))
    (f : α → StateM FileTree β) : t.eval (x >>= f) = t'.eval (f a) := by
  have hrun : t.eval (x >>= f) = (t.eval x).2.eval (f (t.eval x).1) := rfl
  rw [hrun, h]

/-- What a program comes to on a file tree. -/
def exec (x : ExceptT ε (StateM FileTree) α) : Except ε α × FileTree := (x.run.run t).run

theorem eval_run (x : ExceptT ε (StateM FileTree) α) : t.eval x.run = t.exec x := rfl

theorem exec_bind (x : ExceptT ε (StateM FileTree) α) (f : α → ExceptT ε (StateM FileTree) β) :
    t.exec (x >>= f) = match t.exec x with
      | (.ok a, t') => t'.exec (f a)
      | (.error e, t') => (.error e, t') := by
  have hrun : t.exec (x >>= f) = match t.exec x with
      | (r, t') => t'.exec (ExceptT.mk (ExceptT.bindCont f r)) := rfl
  rw [hrun]
  rcases t.exec x with ⟨⟨e⟩ | ⟨a⟩, t'⟩ <;> rfl

@[simp] theorem exec_pure (a : α) :
    t.exec (pure a : ExceptT ε (StateM FileTree) α) = (.ok a, t) := rfl

@[simp] theorem exec_throw (e : ε) :
    t.exec (throw e : ExceptT ε (StateM FileTree) α) = (.error e, t) := rfl

@[simp] theorem exec_outcome (r : Except ε α) :
    t.exec (ExceptT.mk (pure r) : ExceptT ε (StateM FileTree) α) = (r, t) := rfl

theorem exec_adapt (f : ε → ε') (x : ExceptT ε (StateM FileTree) α) :
    t.exec (x.adapt f) = ((t.exec x).1.mapError f, (t.exec x).2) := rfl

theorem exec_map (f : α → β) (x : ExceptT ε (StateM FileTree) α) :
    t.exec (f <$> x) = (f <$> (t.exec x).1, (t.exec x).2) := by
  have hrun : t.exec (f <$> x) = t.exec (x >>= fun a => pure (f a)) := rfl
  rw [hrun, exec_bind]
  rcases t.exec x with ⟨⟨e⟩ | ⟨a⟩, t'⟩ <;> rfl

/-! ## What programs ask of a disk -/

@[simp] theorem exec_kind? (p : Path) :
    t.exec (Disk.kind? p : ExceptT ε (StateM FileTree) (Option DiskKind)) =
      (.ok (t.kind? p), t) := rfl

@[simp] theorem exec_readText? (p : Path) :
    t.exec (Disk.readText? p : ExceptT ε (StateM FileTree) (Option String)) =
      (.ok (t.readText? p), t) := rfl

@[simp] theorem exec_workingDirectory :
    t.exec (Disk.workingDirectory : ExceptT ε (StateM FileTree) Path) =
      (.ok ("/" ++ "/".intercalate t.start), t) := rfl

theorem exec_makeParent (p : Path) :
    t.exec (Disk.makeParent p : ExceptT ε (StateM FileTree) Bool) = match t.makeParent p with
      | (made, t') => (.ok made, t') := rfl

theorem exec_write (p : Path) (text : String) :
    t.exec (Disk.write p text : ExceptT ε (StateM FileTree) Bool) = match t.write? p text with
      | some after => (.ok true, after)
      | none => (.ok false, t) := by
  have hrun : t.exec (Disk.write p text : ExceptT ε (StateM FileTree) Bool) =
      match (match t.write? p text with
        | some after => (true, after)
        | none => (false, t)) with
      | (b, t') => (.ok b, t') := rfl
  rw [hrun]
  cases t.write? p text <;> rfl

@[simp] theorem exec_isFile (p : Path) :
    t.exec (Disk.isFile p : ExceptT ε (StateM FileTree) Bool) =
      (.ok (t.kind? p == some .file), t) := rfl

@[simp] theorem exec_isThere (p : Path) :
    t.exec (Disk.isThere p : ExceptT ε (StateM FileTree) Bool) = (.ok (t.kind? p).isSome, t) := rfl

/-! ## Programs that only read -/

/-- Whether a program leaves every file tree as it is. -/
def Reads (x : ExceptT ε (StateM FileTree) α) : Prop := ∀ t : FileTree, (t.exec x).2 = t

variable {t} {x : ExceptT ε (StateM FileTree) α}

theorem Reads.exec_eq (h : Reads x) (t : FileTree) : t.exec x = ((t.exec x).1, t) :=
  Prod.ext rfl (h t)

theorem Reads.bind {f : α → ExceptT ε (StateM FileTree) β} (h : Reads x)
    (hf : ∀ a, Reads (f a)) : Reads (x >>= f) := by
  intro t
  rw [exec_bind, h.exec_eq t]
  cases (t.exec x).1 with
  | error e => rfl
  | ok a => exact hf a t

/-- What comes of a program after one that only reads. -/
theorem Reads.bind_fst (h : Reads x) (f : α → ExceptT ε (StateM FileTree) β) :
    (t.exec (x >>= f)).1 = (t.exec x).1 >>= fun a => (t.exec (f a)).1 := by
  rw [exec_bind, h.exec_eq t]
  cases (t.exec x).1 <;> rfl

/-- What succeeds after reading something. -/
theorem Reads.bind_eq_ok {f : α → ExceptT ε (StateM FileTree) β} {b : β} (h : Reads x)
    (hok : (t.exec (x >>= f)).1 = .ok b) :
    ∃ a, (t.exec x).1 = .ok a ∧ (t.exec (f a)).1 = .ok b := by
  rw [h.bind_fst] at hok
  exact Outcome.bind_eq_ok.mp hok

theorem Reads.adapt (h : Reads x) (f : ε → ε') : Reads (x.adapt f) := h

theorem Reads.map (h : Reads x) (f : α → β) : Reads (f <$> x) := by
  intro t
  rw [exec_map]
  exact h t

theorem reads_pure (a : α) : Reads (pure a : ExceptT ε (StateM FileTree) α) := fun _ => rfl

theorem reads_throw (e : ε) : Reads (throw e : ExceptT ε (StateM FileTree) α) := fun _ => rfl

theorem reads_readFile (p : Path) : Reads (Disk.readFile p : ExceptT _ (StateM FileTree) _) := by
  unfold Disk.readFile
  refine Reads.bind (fun _ => rfl) fun text => ?_
  cases text with
  | some text => exact reads_pure text
  | none => exact reads_throw _

theorem reads_readAll (dir : Path) (files : List Path) (found : Sources) :
    Reads (Disk.readAll dir files found : ExceptT _ (StateM FileTree) _) := by
  induction files generalizing found with
  | nil => exact reads_pure found
  | cons p rest ih => exact Reads.bind (reads_readFile _) fun text => ih _

theorem reads_readTrees (dir : Path) :
    Reads (Disk.readTrees dir : ExceptT _ (StateM FileTree) _) := by
  unfold Disk.readTrees
  refine Reads.bind (fun _ => rfl) fun files => ?_
  cases files with
  | nil => exact reads_throw _
  | cons p rest => exact reads_readAll dir _ _

theorem reads_readGlobals (dir : Path) :
    Reads (Disk.readGlobals dir : ExceptT _ (StateM FileTree) _) := by
  unfold Disk.readGlobals
  refine Reads.bind (fun _ => rfl) fun isFile => ?_
  cases isFile with
  | true => exact (reads_readFile _).map some
  | false => exact reads_pure none

end DialogueTree.FileTree
