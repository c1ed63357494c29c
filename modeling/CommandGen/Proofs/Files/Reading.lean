import CommandGen.Proofs.Files.Program
import CommandGen.Scan.Directory
import CommandGen.Settings.Load

/-! Programs that only read. Whatever they find, they leave all files as they are, after each
operation. The settings of a directory are loaded by such a program, and its sources are scanned by
one. -/
namespace CommandGen

namespace FileProgram

variable {α β : Type}

/-- The program has no operation that changes files, whatever those before it come to. -/
def ReadsOnly : FileProgram α → Prop
  | .done _ => True
  | .readText _ next => ∀ r, (next r).ReadsOnly
  | .isFile _ next => ∀ r, (next r).ReadsOnly
  | .names _ next => ∀ r, (next r).ReadsOnly
  | .makeDirs _ _ => False
  | .writeText _ _ _ => False
  | .moveFile _ _ _ => False
  | .removeFile _ _ => False

theorem readsOnly_pure (a : α) : (pure a : FileProgram α).ReadsOnly := trivial

theorem readsOnly_readTextAt (path : String) : (readTextAt path).ReadsOnly := fun _ => trivial

theorem readsOnly_isFileAt (path : String) : (isFileAt path).ReadsOnly := fun _ => trivial

theorem readsOnly_namesIn (dir : String) : (namesIn dir).ReadsOnly := fun _ => trivial

theorem ReadsOnly.bind {p : FileProgram α} {f : α → FileProgram β} (hp : p.ReadsOnly)
    (hf : ∀ a, (f a).ReadsOnly) : (p >>= f).ReadsOnly := by
  change (p.bind f).ReadsOnly
  induction p with
  | done a => exact hf a
  | readText path next ih => exact fun r => ih r (hp r)
  | isFile path next ih => exact fun r => ih r (hp r)
  | names dir next ih => exact fun r => ih r (hp r)
  | makeDirs dir next ih => cases hp
  | writeText path text next ih => cases hp
  | moveFile source target next ih => cases hp
  | removeFile path next ih => cases hp

/-- A program leaves a tree alone if it is the same after each operation, and so after the last. -/
def LeavesAlone (p : FileProgram α) (t : FileTree) : Prop :=
  (p.run t).2 = t ∧ ∀ u ∈ p.states t, u = t

theorem ReadsOnly.leavesAlone {p : FileProgram α} (h : p.ReadsOnly) (t : FileTree) :
    p.LeavesAlone t := by
  have hread {p : FileProgram α} (h : p.LeavesAlone t) :
      (p.run t).2 = t ∧ ∀ u ∈ t :: p.states t, u = t :=
    ⟨h.1, List.forall_mem_cons.mpr ⟨rfl, h.2⟩⟩
  induction p with
  | done a => exact ⟨rfl, by simp [states]⟩
  | readText path next ih => exact hread (ih _ (h _))
  | isFile path next ih => exact hread (ih _ (h _))
  | names dir next ih => exact hread (ih _ (h _))
  | makeDirs dir next ih => cases h
  | writeText path text next ih => cases h
  | moveFile source target next ih => cases h
  | removeFile path next ih => cases h

theorem ReadsOnly.exists_run {p : FileProgram α} (h : p.ReadsOnly) (t : FileTree) :
    ∃ a, p.run t = (a, t) :=
  ⟨_, Prod.ext rfl (h.leavesAlone t).1⟩

end FileProgram

open FileProgram

theorem Settings.readsOnly_ofFile (path : String) : (ofFile path).ReadsOnly := by
  refine (readsOnly_readTextAt path).bind fun text => ?_
  cases text with
  | none => exact readsOnly_pure _
  | some text => exact readsOnly_pure _

theorem Settings.readsOnly_load (dir : String) (config : Option String) :
    (load dir config).ReadsOnly := by
  cases config with
  | some path => exact readsOnly_ofFile path
  | none =>
    refine (readsOnly_isFileAt _).bind fun found => ?_
    cases found with
    | true => exact readsOnly_ofFile _
    | false => exact readsOnly_pure _

theorem readsOnly_sourceFilesAmong (paths : List String) : (sourceFilesAmong paths).ReadsOnly := by
  induction paths with
  | nil => exact readsOnly_pure _
  | cons path rest ih =>
    unfold sourceFilesAmong
    split
    · exact (readsOnly_isFileAt path).bind fun _ => ih.bind fun _ => readsOnly_pure _
    · exact (readsOnly_pure false).bind fun _ => ih.bind fun _ => readsOnly_pure _

theorem readsOnly_sourceFiles (dir : String) : (sourceFiles dir).ReadsOnly := by
  refine (readsOnly_namesIn dir).bind fun found => ?_
  cases found with
  | none => exact readsOnly_pure _
  | some found => exact (readsOnly_sourceFilesAmong _).bind fun _ => readsOnly_pure _

theorem readsOnly_scanFiles (o : ScanOptions) (found : List FoundCommand) (paths : List String) :
    (scanFiles o found paths).ReadsOnly := by
  induction paths generalizing found with
  | nil => exact readsOnly_pure _
  | cons path rest ih =>
    refine (readsOnly_readTextAt path).bind fun text => ?_
    cases text with
    | none => exact readsOnly_pure _
    | some text =>
      dsimp only
      cases addFile o found ⟨path, text⟩ with
      | error e => exact readsOnly_pure _
      | ok more => exact ih more

theorem readsOnly_scanDirectory (o : ScanOptions) (dir : String) :
    (scanDirectory o dir).ReadsOnly := by
  refine (readsOnly_sourceFiles dir).bind fun paths => ?_
  cases paths with
  | error e => exact readsOnly_pure _
  | ok paths => exact readsOnly_scanFiles o [] paths

end CommandGen
