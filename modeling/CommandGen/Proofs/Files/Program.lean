import CommandGen.Files.Program
import CommandGen.Proofs.Files.Tree

/-! Runs of programs over files: what a run of one program after another is, and what every run
keeps. -/
namespace CommandGen

instance decidableEqExcept {ε α : Type} [DecidableEq ε] [DecidableEq α] : DecidableEq (Except ε α)
  | .ok a, .ok b => decidable_of_iff (a = b) (by simp)
  | .error a, .error b => decidable_of_iff (a = b) (by simp)
  | .ok _, .error _ => isFalse nofun
  | .error _, .ok _ => isFalse nofun

namespace FileProgram

variable {α β : Type} {t : FileTree}

@[simp] theorem run_pure (a : α) (t : FileTree) : (pure a : FileProgram α).run t = (a, t) := rfl

theorem run_eq_of_fst {p : FileProgram α} {a : α} (h : (p.run t).1 = a) :
    p.run t = (a, (p.run t).2) := by
  rw [← h]

@[simp] theorem run_bind (p : FileProgram α) (f : α → FileProgram β) (t : FileTree) :
    (p >>= f).run t = (f (p.run t).1).run (p.run t).2 := by
  change (p.bind f).run t = _
  induction p generalizing t with
  | done a => rfl
  | readText path next ih => exact ih _ _
  | isFile path next ih => exact ih _ _
  | names dir next ih => exact ih _ _
  | makeDirs dir next ih => exact ih _ _
  | writeText path text next ih => exact ih _ _
  | moveFile source target next ih => exact ih _ _
  | removeFile path next ih => exact ih _ _

@[simp] theorem run_readTextAt (path : String) (t : FileTree) :
    (readTextAt path).run t = (t.readText path, t) := rfl

@[simp] theorem run_isFileAt (path : String) (t : FileTree) :
    (isFileAt path).run t = (t.isFile path, t) := rfl

@[simp] theorem run_namesIn (dir : String) (t : FileTree) :
    (namesIn dir).run t = (t.names dir, t) := rfl

@[simp] theorem run_makeDirsAt (dir : String) (t : FileTree) :
    (makeDirsAt dir).run t = ((t.makeDirs dir).2, (t.makeDirs dir).1) := rfl

@[simp] theorem run_writeTextAt (path text : String) (t : FileTree) :
    (writeTextAt path text).run t = ((t.writeText path text).2, (t.writeText path text).1) := rfl

@[simp] theorem run_move (source target : String) (t : FileTree) :
    (move source target).run t = ((t.moveFile source target).2, (t.moveFile source target).1) := rfl

@[simp] theorem run_remove (path : String) (t : FileTree) :
    (remove path).run t = ((t.removeFile path).2, (t.removeFile path).1) := rfl

open FileTree

theorem writeText_keepsDirectories (t : FileTree) (path text : String) :
    KeepsDirectories t (t.writeText path text).1 := by
  rcases writeText_cases t path text with h | ⟨l, -, hl, -, h⟩
  · simp [h]
  · rw [h]
    exact .of_put hl

theorem moveFile_keepsDirectories (t : FileTree) (source target : String) :
    KeepsDirectories t (t.moveFile source target).1 := by
  rcases moveFile_cases t source target with h | ⟨a, b, c, -, -, ha, hb, -, h⟩
  · simp [h]
  · rw [h]
    exact moved_keepsDirectories ha hb

theorem removeFile_keepsDirectories (t : FileTree) (path : String) :
    KeepsDirectories t (t.removeFile path).1 := by
  rcases removeFile_cases t path with h | ⟨l, c, -, hc, h⟩
  · simp [h]
  · rw [h]
    exact .of_without (not_directory_of_file hc)

theorem run_keepsDirectories (p : FileProgram α) (t : FileTree) :
    KeepsDirectories t (p.run t).2 := by
  induction p generalizing t with
  | done a => exact .refl t
  | readText path next ih => exact ih _ t
  | isFile path next ih => exact ih _ t
  | names dir next ih => exact ih _ t
  | makeDirs dir next ih => exact (makeDirs_adds t dir).keepsDirectories.trans (ih _ _)
  | writeText path text next ih => exact (writeText_keepsDirectories t path text).trans (ih _ _)
  | moveFile source target next ih =>
    exact (moveFile_keepsDirectories t source target).trans (ih _ _)
  | removeFile path next ih => exact (removeFile_keepsDirectories t path).trans (ih _ _)

/-- Every program leaves a tree that hangs together as one that does. -/
theorem run_isTree (p : FileProgram α) (h : t.IsTree) : (p.run t).2.IsTree := by
  induction p generalizing t with
  | done a => exact h
  | readText path next ih => exact ih _ h
  | isFile path next ih => exact ih _ h
  | names dir next ih => exact ih _ h
  | makeDirs dir next ih => exact ih _ (h.makeDirs dir)
  | writeText path text next ih => exact ih _ (h.writeText path text)
  | moveFile source target next ih => exact ih _ (h.moveFile source target)
  | removeFile path next ih => exact ih _ (h.removeFile path)

end FileProgram

end CommandGen
