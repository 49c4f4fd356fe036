import Mathlib.Data.List.Basic

namespace VendingSystem

/-!
# Files that a crash may set back

What was written to a file is safe once the file is synced, and what its name
points to is safe once its directory is.  A crash before leaves the file with
any of its earlier contents, or without its name.
-/

structure CrashFile (Content : Type) where
  /-- What a reader finds under the name. -/
  visible : Option Content
  /-- What the file may hold after a crash. -/
  current : List Content
  /-- What the name may go back to, as the directory was not synced since. -/
  earlier : List (Option Content)
  deriving Repr, DecidableEq

namespace CrashFile

variable {Content : Type}

/-- A file as a process finds it when it starts. -/
def settled (content : Option Content) : CrashFile Content where
  visible := content
  current := content.toList
  earlier := []

/-- What the name points to, if the directory has been synced. -/
def entry (file : CrashFile Content) : List (Option Content) :=
  match file.visible with
  | none => [none]
  | some _ => file.current.map some

/-- All that a crash may leave under the name. -/
def lasting (file : CrashFile Content) : List (Option Content) :=
  file.earlier ++ file.entry

/-- The file is created, or cut to no content where it stands. -/
def create (empty : Content) (file : CrashFile Content) :
    CrashFile Content :=
  match file.visible with
  | none =>
    { visible := some empty, current := [empty], earlier := file.lasting }
  | some _ =>
    { file with visible := some empty, current := empty :: file.current }

/-- The content is written on, where there is a file. -/
def write (content : Content) (file : CrashFile Content) :
    CrashFile Content :=
  match file.visible with
  | none => file
  | some _ =>
    { file with
      visible := some content
      current := content :: file.current }

def sync (file : CrashFile Content) : CrashFile Content :=
  { file with current := file.visible.toList }

def remove (file : CrashFile Content) : CrashFile Content where
  visible := none
  current := []
  earlier := file.lasting

/-- Another file is renamed onto the name. -/
def replaceBy (source file : CrashFile Content) : CrashFile Content where
  visible := source.visible
  current := source.current
  earlier := file.lasting

/-- The directory is synced. -/
def syncEntry (file : CrashFile Content) : CrashFile Content :=
  { file with earlier := [] }

variable {file source : CrashFile Content} {content : Content}

@[simp] theorem lasting_settled (content : Option Content) :
    (settled content).lasting = [content] := by
  cases content with
  | none => rfl
  | some content => rfl

theorem mem_lasting_iff {left : Option Content} :
    left ∈ file.lasting ↔ left ∈ file.earlier ∨ left ∈ file.entry :=
  List.mem_append

variable {left : Option Content}

theorem mem_lasting_create
    {empty : Content}
    (member : left ∈ (file.create empty).lasting) :
    left = some empty ∨ left ∈ file.lasting := by
  cases visible : file.visible with
  | none =>
    simp only [create, visible, lasting, entry, List.mem_append,
      List.map_cons, List.map_nil, List.mem_singleton] at member
    rcases member with earlier | rfl
    · exact .inr (by simpa [lasting, entry, visible] using earlier)
    · exact .inl rfl
  | some former =>
    simp only [create, visible, lasting, entry, List.mem_append,
      List.map_cons, List.mem_cons] at member
    rcases member with earlier | rfl | current
    · exact .inr (mem_lasting_iff.mpr (.inl earlier))
    · exact .inl rfl
    · exact .inr (mem_lasting_iff.mpr (.inr (by
        simpa [entry, visible] using current)))

@[simp] theorem visible_create (empty : Content) :
    (file.create empty).visible = some empty := by
  cases visible : file.visible with
  | none => simp [create, visible]
  | some former => simp [create, visible]

theorem mem_lasting_write
    (member : left ∈ (file.write content).lasting) :
    left = some content ∨ left ∈ file.lasting := by
  cases visible : file.visible with
  | none => exact .inr (by simpa [write, visible] using member)
  | some former =>
    simp only [write, visible, lasting, entry, List.mem_append,
      List.map_cons, List.mem_cons] at member
    rcases member with earlier | rfl | current
    · exact .inr (mem_lasting_iff.mpr (.inl earlier))
    · exact .inl rfl
    · exact .inr (mem_lasting_iff.mpr (.inr (by
        simpa [entry, visible] using current)))

theorem visible_write
    {former : Content}
    (visible : file.visible = some former) :
    (file.write content).visible = some content := by
  simp [write, visible]

theorem mem_lasting_sync
    (member : left ∈ file.sync.lasting) :
    left = file.visible ∨ left ∈ file.earlier := by
  rcases mem_lasting_iff.mp member with earlier | entry
  · exact .inr earlier
  · cases visible : file.visible with
    | none => exact .inl (by simpa [CrashFile.entry, sync, visible] using entry)
    | some former =>
      exact .inl (by simpa [CrashFile.entry, sync, visible] using entry)

theorem mem_lasting_remove
    (member : left ∈ file.remove.lasting) :
    left = none ∨ left ∈ file.lasting := by
  rcases mem_lasting_iff.mp member with earlier | entry
  · exact .inr earlier
  · exact .inl (by simpa [CrashFile.entry, remove] using entry)

theorem mem_lasting_syncEntry
    (member : left ∈ file.syncEntry.lasting) :
    left ∈ file.entry := by
  simpa [lasting, syncEntry, entry] using member

/-- The file has been synced with this content. -/
def Holds (file : CrashFile Content) (content : Content) : Prop :=
  file.visible = some content ∧ file.current = [content]

theorem Holds.of_sync (visible : file.visible = some content) :
    file.sync.Holds content :=
  ⟨visible, by simp [sync, visible]⟩

theorem Holds.mem_lasting_replaceBy
    (holds : source.Holds content)
    (member : left ∈ (replaceBy source file).lasting) :
    left = some content ∨ left ∈ file.lasting := by
  rcases mem_lasting_iff.mp member with earlier | entry
  · exact .inr earlier
  · exact .inl (by
      simpa [CrashFile.entry, replaceBy, holds.1, holds.2] using entry)

/-- Nothing but this content is left under the name, before or after a crash. -/
structure IsSettled
    (file : CrashFile Content)
    (content : Option Content) : Prop where
  visible : file.visible = content
  lasting : ∀ left ∈ file.lasting, left = content

theorem isSettled_settled (content : Option Content) :
    (settled content).IsSettled content where
  visible := rfl
  lasting := by simp

/-- The name points to this content, if the directory is synced. -/
structure IsPlaced
    (file : CrashFile Content)
    (content : Option Content) : Prop where
  visible : file.visible = content
  entry : ∀ left ∈ file.entry, left = content

theorem IsPlaced.syncEntry
    {content : Option Content}
    (placed : file.IsPlaced content) :
    file.syncEntry.IsSettled content where
  visible := placed.visible
  lasting := fun left member =>
    placed.entry left (mem_lasting_syncEntry member)

theorem IsPlaced.of_replaceBy (holds : source.Holds content) :
    (replaceBy source file).IsPlaced (some content) where
  visible := holds.1
  entry := by simp [CrashFile.entry, replaceBy, holds.1, holds.2]

theorem IsPlaced.of_remove : file.remove.IsPlaced none where
  visible := rfl
  entry := by simp [CrashFile.entry, remove]

theorem IsSettled.syncEntry
    {content : Option Content}
    (settled : file.IsSettled content) :
    file.syncEntry.IsSettled content where
  visible := settled.visible
  lasting := fun left member =>
    settled.lasting left
      (mem_lasting_iff.mpr (.inr (mem_lasting_syncEntry member)))

end CrashFile

end VendingSystem
