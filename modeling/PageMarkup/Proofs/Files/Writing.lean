import Mathlib.Data.List.Basic
import PageMarkup.Files.Workspace
import PageMarkup.Proofs.Content.Outcomes

/-!
# Writing to a file

A text that is written to a path is the text of the file that the path leads to from then on, and
whether a path can be written to does not depend on the text, as long as the encoding has it. A file
that is there keeps its place, so every path leads where it has led before. A new file is put where
nothing was, so a path that was followed up to a folder has not come across its place.

## Main definitions

* `Workspace.IsWritable` : a path that can be written to.

## Main results

* `Workspace.locate_of_write` : what a path leads to once a text has been written to it.
* `Workspace.text?_of_cutShort` : what is left of a file whose text cannot be written.
-/

namespace PageMarkup

namespace Workspace

/-- A path that can be written to. -/
def IsWritable (w : Workspace) (p : Path) : Prop :=
  ∃ text written, w.write p text = .ok written

/-- The contents of the file that is known under a path from the root. -/
private def contentsAt (w : Workspace) (full : Path) : Option FileContents :=
  (w.files.find? fun e => e.1 = full).map (·.2)

/-- The workspace with other contents of the file that is known under a path. -/
private def rewriteFile (w : Workspace) (full : Path) (contents : FileContents) : Workspace :=
  { w with files := w.files.map fun e => if e.1 = full then (full, contents) else e }

/-- The workspace with one more file. -/
private def addFile (w : Workspace) (full : Path) (contents : FileContents) : Workspace :=
  { w with files := w.files ++ [(full, contents)] }

variable {w : Workspace} {p q full : Path} {text : String} {contents : FileContents}
  {here : Location} {part : List Char} {parts : List (List Char)}

/-! ### Following a path -/

private theorem enter_folder (w : Workspace) (q : Path) (part : List Char) :
    w.enter (.folder q) part =
      if part = ['.', '.'] then .folder q.parent
      else if maxPartBytes < (String.ofList part).utf8ByteSize then .overlong
      else match w.contentsAt { q with parts := q.parts ++ [part] } with
        | some contents => .file { q with parts := q.parts ++ [part] } contents
        | none =>
          if w.folders.contains { q with parts := q.parts ++ [part] } then
            .folder { q with parts := q.parts ++ [part] }
          else .nowhere := by
  unfold enter contentsAt
  dsimp only
  cases w.files.find? fun e => e.1 = { q with parts := q.parts ++ [part] } <;> rfl

private theorem foldl_enter_ne_folder (h : ∀ q, here ≠ .folder q) (q : Path) :
    parts.foldl w.enter here ≠ .folder q := by
  induction parts generalizing here with
  | nil => exact h q
  | cons part parts ih =>
    refine ih fun r => ?_
    cases here with
    | folder s => exact absurd rfl (h s)
    | file | nowhere | overlong => exact nofun

/-- The parts of a path seen from the current folder are those of its folder and its name. -/
private theorem parts_under (w : Workspace) {name : List Char}
    (h : p.parts.getLast? = some name) :
    (w.current.under p).parts = (w.current.under p.parent).parts ++ [name] := by
  have hparts : p.parts.dropLast ++ [name] = p.parts := List.dropLast_append_getLast? name h
  unfold Path.under Path.parent
  split
  · rw [List.append_assoc, hparts]
  · exact hparts.symm

/-- A path that is not refused for its length and characters is followed part by part. -/
private theorem locate_eq_foldl (hnull : p.holdsNull = false)
    (hlength : ¬ maxPathBytes < p.text.utf8ByteSize) :
    w.locate p = (w.current.under p).parts.foldl w.enter (.folder .top) := by
  rw [locate, hnull, if_neg Bool.false_ne_true, if_neg hlength]

private theorem not_overlong (hnull : p.holdsNull = false) (h : w.locate p ≠ .overlong) :
    ¬ maxPathBytes < p.text.utf8ByteSize := by
  intro hlength
  rw [locate, hnull, if_neg Bool.false_ne_true, if_pos hlength] at h
  exact h rfl

/-! ### A file that is there -/

/-- A location in which the file under a path has other contents. -/
private def rewriteLocation (full : Path) (contents : FileContents) : Location → Location
  | .file q old => .file q (if q = full then contents else old)
  | place => place

private theorem contentsAt_rewriteFile (w : Workspace) (full : Path) (contents : FileContents)
    (q : Path) : (w.rewriteFile full contents).contentsAt q =
      (w.contentsAt q).map fun old => if q = full then contents else old := by
  unfold contentsAt rewriteFile
  induction w.files with
  | nil => rfl
  | cons e es ih =>
    by_cases he : e.1 = q
    · by_cases hq : q = full
      · simp [he, hq]
      · simp [he, hq]
    · have hkey : (if e.1 = full then (full, contents) else e).1 ≠ q := by
        split
        next hfull => exact hfull ▸ he
        next => exact he
      simp only [List.map_cons, List.find?_cons, decide_eq_false he, decide_eq_false hkey]
      exact ih

private theorem enter_rewriteFile (w : Workspace) (full : Path) (contents : FileContents)
    (here : Location) (part : List Char) :
    (w.rewriteFile full contents).enter (rewriteLocation full contents here) part =
      rewriteLocation full contents (w.enter here part) := by
  cases here with
  | file | nowhere | overlong => rfl
  | folder q =>
    change (w.rewriteFile full contents).enter (.folder q) part = _
    rw [enter_folder, enter_folder, contentsAt_rewriteFile]
    split
    · rfl
    split
    · rfl
    cases w.contentsAt { q with parts := q.parts ++ [part] } with
    | some old => rfl
    | none => by_cases hthere : { q with parts := q.parts ++ [part] } ∈ w.folders <;>
        simp [rewriteFile, rewriteLocation, hthere]

private theorem foldl_enter_rewriteFile (w : Workspace) (full : Path) (contents : FileContents)
    (parts : List (List Char)) (here : Location) :
    parts.foldl (w.rewriteFile full contents).enter (rewriteLocation full contents here) =
      rewriteLocation full contents (parts.foldl w.enter here) := by
  induction parts generalizing here with
  | nil => rfl
  | cons part parts ih => rw [List.foldl_cons, enter_rewriteFile, ih, List.foldl_cons]

private theorem locate_rewriteFile (h : w.locate p = .file full contents) (text : String)
    (hnull : p.holdsNull = false) :
    (w.rewriteFile full (.text text)).locate p = .file full (.text text) := by
  have hlength := not_overlong (w := w) hnull (by rw [h]; nofun)
  rw [locate_eq_foldl hnull hlength] at h ⊢
  have hrewrite := foldl_enter_rewriteFile w full (.text text) (w.current.under p).parts
    (.folder .top)
  rw [h] at hrewrite
  exact hrewrite.trans (by rw [rewriteLocation, if_pos rfl])

/-! ### A new file -/

private theorem contentsAt_addFile (w : Workspace) (full : Path) (contents : FileContents)
    (q : Path) : (w.addFile full contents).contentsAt q =
      (w.contentsAt q).or (if full = q then some contents else none) := by
  unfold contentsAt addFile
  rw [List.find?_append, Option.map_or]
  by_cases h : full = q <;> simp [h]

/-- A step into a folder leads there with a new file as well, since the new file is no folder. -/
private theorem enter_addFile (contents : FileContents)
    (hnew : w.folders.contains full = false) (h : w.enter here part = .folder q) :
    (w.addFile full contents).enter here part = .folder q := by
  cases here with
  | file | nowhere | overlong => cases h
  | folder s =>
    rw [enter_folder] at h ⊢
    rw [contentsAt_addFile]
    cases hfound : w.contentsAt { s with parts := s.parts ++ [part] } with
    | some old => simpa only [hfound, Option.some_or] using h
    | none =>
      rw [hfound] at h
      by_cases hfull : full = { s with parts := s.parts ++ [part] }
      · rw [← hfull, hnew] at h
        split at h
        next hdots => rwa [if_pos hdots]
        next => split at h <;> cases h
      · rwa [if_neg hfull]

private theorem foldl_enter_addFile (contents : FileContents)
    (hnew : w.folders.contains full = false) (h : parts.foldl w.enter here = .folder q) :
    parts.foldl (w.addFile full contents).enter here = .folder q := by
  induction parts generalizing here with
  | nil => exact h
  | cons part parts ih =>
    rw [List.foldl_cons] at h ⊢
    cases hstep : w.enter here part with
    | folder r => rw [enter_addFile contents hnew hstep, ih (hstep ▸ h)]
    | file r old => exact absurd h (foldl_enter_ne_folder (by rw [hstep]; nofun) q)
    | nowhere => exact absurd h (foldl_enter_ne_folder (by rw [hstep]; nofun) q)
    | overlong => exact absurd h (foldl_enter_ne_folder (by rw [hstep]; nofun) q)

private theorem locate_addFile {name : List Char} (hp : w.locate p = .nowhere)
    (hfolder : w.locate p.parent = .folder q) (hname : p.parts.getLast? = some name)
    (hnull : p.holdsNull = false) (contents : FileContents) :
    (w.addFile { q with parts := q.parts ++ [name] } contents).locate p =
      .file { q with parts := q.parts ++ [name] } contents := by
  have hlength := not_overlong (w := w) hnull (by rw [hp]; nofun)
  have hparent : (w.current.under p.parent).parts.foldl w.enter (.folder .top) = .folder q := by
    rw [locate] at hfolder
    split at hfolder
    · cases hfolder
    · split at hfolder
      · cases hfolder
      · exact hfolder
  have hstep : w.enter (.folder q) name = .nowhere := by
    rwa [locate_eq_foldl hnull hlength, parts_under w hname, List.foldl_append, hparent] at hp
  rw [locate_eq_foldl hnull hlength]
  change (w.current.under p).parts.foldl _ _ = _
  rw [parts_under w hname, List.foldl_append]
  rw [enter_folder] at hstep
  split at hstep
  · cases hstep
  next hdots =>
  split at hstep
  · cases hstep
  next hlong =>
  cases hfound : w.contentsAt { q with parts := q.parts ++ [name] } with
  | some old => simp only [hfound, reduceCtorEq] at hstep
  | none =>
    rw [hfound] at hstep
    have hnew : w.folders.contains { q with parts := q.parts ++ [name] } = false := by
      by_contra hthere
      rw [Bool.not_eq_false] at hthere
      simp only [hthere, if_true, reduceCtorEq] at hstep
    rw [foldl_enter_addFile contents hnew hparent, List.foldl_cons, List.foldl_nil, enter_folder,
      if_neg hdots, if_neg hlong, contentsAt_addFile, hfound, if_pos rfl]
    rfl

/-! ### Writing -/

/-- What putting a text comes to: the path leads to a file that is there, or to nothing in a
folder. -/
private theorem put_cases {made : Workspace} (h : w.put p text = .ok made) :
    p.holdsNull = false ∧
      ((∃ full old, w.locate p = .file full old ∧ made = w.rewriteFile full (.text text)) ∨
        ∃ q name, w.locate p = .nowhere ∧ w.locate p.parent = .folder q ∧
          p.parts.getLast? = some name ∧
          made = w.addFile { q with parts := q.parts ++ [name] } (.text text)) := by
  rw [put] at h
  split at h
  · cases h
  next hnull =>
  refine ⟨Bool.eq_false_iff.mpr hnull, ?_⟩
  split at h
  next full old hfile => exact .inl ⟨full, old, hfile, (Except.ok.inj h).symm⟩
  next hnowhere =>
    split at h
    next q name hfolder hname =>
      exact .inr ⟨q, name, hnowhere, hfolder, hname, (Except.ok.inj h).symm⟩
    next => cases h
  next => cases h
  next => cases h

private theorem locate_of_put {made : Workspace} (h : w.put p text = .ok made) :
    ∃ full, made.locate p = .file full (.text text) := by
  obtain ⟨hnull, ⟨full, old, hfile, rfl⟩ | ⟨q, name, hnowhere, hfolder, hname, rfl⟩⟩ :=
    put_cases h
  · exact ⟨full, locate_rewriteFile hfile text hnull⟩
  · exact ⟨_, locate_addFile hnowhere hfolder hname hnull _⟩

private theorem text?_of_put {made : Workspace} (h : w.put p text = .ok made) :
    made.text? p = some text := by
  obtain ⟨full, hlocate⟩ := locate_of_put h
  rw [text?, hlocate]
  rfl

private theorem exists_put {other : String} {made : Workspace} (h : w.put p other = .ok made)
    (text : String) : ∃ made, w.put p text = .ok made := by
  obtain ⟨hnull, ⟨full, old, hfile, -⟩ | ⟨q, name, hnowhere, hfolder, hname, -⟩⟩ := put_cases h
  · exact ⟨_, by rw [put, hnull, if_neg Bool.false_ne_true, hfile]⟩
  · exact ⟨_, by rw [put, hnull, if_neg Bool.false_ne_true, hnowhere, hfolder, hname]⟩

theorem write_eq_ok_iff {written : Workspace} : w.write p text = .ok written ↔
    w.encoding.encodes text.toList = true ∧ w.put p text = .ok written := by
  rw [write, bind_eq_ok_iff]
  constructor
  · rintro ⟨emptied, -, h⟩
    split at h
    next hencodes => exact ⟨hencodes, h⟩
    next => cases h
  · rintro ⟨hencodes, hput⟩
    obtain ⟨emptied, hemptied⟩ := exists_put hput ""
    exact ⟨emptied, hemptied, by rwa [if_pos hencodes]⟩

/-- **A text that is written is there.** The path to which it was written leads to a file with this
text. -/
theorem locate_of_write {written : Workspace} (h : w.write p text = .ok written) :
    ∃ full, written.locate p = .file full (.text text) :=
  locate_of_put (write_eq_ok_iff.mp h).2

theorem text?_of_write {written : Workspace} (h : w.write p text = .ok written) :
    written.text? p = some text :=
  text?_of_put (write_eq_ok_iff.mp h).2

/-- **A file that is cut short is empty.** The text was not in the encoding. -/
theorem text?_of_cutShort {left : Workspace} (h : w.write p text = .error (.cutShort left)) :
    w.encoding.encodes text.toList = false ∧ left.text? p = some "" := by
  rcases bind_eq_error_iff.mp h with h | ⟨emptied, hemptied, h⟩
  · -- putting a text does not cut it short
    rw [put] at h
    split at h
    · cases h
    · split at h
      · cases h
      · split at h <;> cases h
      · cases h
      · cases h
  · split at h
    next hencodes =>
      obtain ⟨made, hmade⟩ := exists_put hemptied text
      cases hmade.symm.trans h
    next hencodes =>
      cases h
      exact ⟨Bool.eq_false_iff.mpr hencodes, text?_of_put hemptied⟩

theorem IsWritable.write (h : w.IsWritable p) {text : String}
    (hencodes : w.encoding.encodes text.toList = true) :
    ∃ written, w.write p text = .ok written := by
  obtain ⟨other, made, hmade⟩ := h
  obtain ⟨written, hwritten⟩ := exists_put (write_eq_ok_iff.mp hmade).2 text
  exact ⟨written, write_eq_ok_iff.mpr ⟨hencodes, hwritten⟩⟩

end Workspace

end PageMarkup
