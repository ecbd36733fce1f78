import TaggedBlock.Files.Folder

set_option autoImplicit false

namespace TaggedBlock

structure FileSystem where
  State : Type
  read : State → String → Except FileError Bytes
  -- Where writing fails there is no next state.
  write : State → String → Bytes → Except FileError State
  -- Whether two paths lead to the same file.
  Same : State → String → String → Prop
  read_written : ∀ {state next : State} {path : String} {content : Bytes},
    write state path content = .ok next → read next path = .ok content
  content_elsewhere : ∀ {state next : State} {path other : String} {content : Bytes},
    write state path content = .ok next → ¬ Same state path other →
      (read next other).toOption = (read state other).toOption

namespace FileSystem

structure Replaced (files : FileSystem) (state next : files.State) (path : String)
    (content : Bytes) : Prop where
  written : files.write state path content = .ok next
  there : files.read next path = .ok content
  elsewhere : ∀ other, ¬ files.Same state path other →
    (files.read next other).toOption = (files.read state other).toOption

theorem replaced_iff {files : FileSystem} {state next : files.State} {path : String}
    {content : Bytes} :
    files.Replaced state next path content ↔ files.write state path content = .ok next :=
  ⟨Replaced.written, fun written =>
    ⟨written, files.read_written written, fun _ apart => files.content_elsewhere written apart⟩⟩

end FileSystem

namespace Folder

variable {folder next : Folder} {path other : String} {content : Bytes}

theorem write_eq_ok (written : folder.write path content = .ok next) :
    ∃ name, Place.ofPath path = .file name false ∧ name.utf8ByteSize ≤ Place.longestName ∧
      next = folder.insert name content := by
  unfold write at written
  split at written
  · cases written
  · cases written
  · cases written
  · rename_i name slash place
    split at written
    · cases written
    · rename_i plain
      split at written
      · cases written
      · rename_i short
        cases written
        rw [Bool.not_eq_true] at plain
        rw [plain] at place
        exact ⟨name, place, Nat.le_of_not_lt short, rfl⟩

theorem read_written (written : folder.write path content = .ok next) :
    next.read path = .ok content := by
  obtain ⟨name, place, short, rfl⟩ := write_eq_ok written
  simp only [read, place, if_neg (Nat.not_lt.mpr short), content_insert, if_true,
    Bool.false_eq_true, if_false]

theorem to_option_read (folder : Folder) (path : String) :
    (folder.read path).toOption =
      match Place.ofPath path with
      | .file name false =>
        if Place.longestName < name.utf8ByteSize then none else folder.content? name
      | _ => none := by
  unfold read
  cases Place.ofPath path with
  | folder => rfl
  | inside name => rfl
  | outside => rfl
  | file name slash =>
      cases slash with
      | true =>
          simp only [if_true]
          split
          · rfl
          · split
            · rfl
            · rfl
      | false =>
          simp only [Bool.false_eq_true, if_false]
          split
          · rfl
          · cases folder.content? name with
            | none => rfl
            | some content => rfl

theorem content_elsewhere (written : folder.write path content = .ok next)
    (apart : Place.ofPath path ≠ Place.ofPath other) :
    (next.read other).toOption = (folder.read other).toOption := by
  obtain ⟨name, place, -, rfl⟩ := write_eq_ok written
  rw [place] at apart
  rw [to_option_read, to_option_read]
  split
  · rename_i asked there
    have different : asked ≠ name := by
      rintro rfl
      exact apart there.symm
    rw [content_insert, if_neg different]
  · rfl

def files : FileSystem where
  State := Folder
  read := read
  write := write
  Same _ path other := Place.ofPath path = Place.ofPath other
  read_written := read_written
  content_elsewhere := content_elsewhere

end Folder

end TaggedBlock
