import Breez.Btc.Wire

set_option autoImplicit false

namespace Breez.Lnnode

open Go

-- os.FileInfo as du reads it: Name(), Size(), IsDir().  A directory also says whether os.Open
-- and dir.Readdir(-1) succeed on its path, and holds the entries Readdir lists.
inductive FileInfo where
  | file (name : String) (size : Int64)
  | dir (name : String) (size : Int64) (opens lists : Bool) (entries : List FileInfo)

namespace FileInfo

def name : FileInfo → String
  | .file name _ | .dir name _ _ _ _ => name

def isDots (fi : FileInfo) : Bool :=
  fi.name == "." || fi.name == ".."

end FileInfo

mutual

-- Daemon.du.  currentPath is only what os.Open and the logs read, so the model leaves it out:
-- each directory carries what Open and Readdir do on its path.  A failed Open still counts the
-- directory's own Size(); a failed Readdir counts nothing.
def du : FileInfo → Int64
  | .file _ size => size
  | .dir _ size false _ _ => size
  | .dir _ _ true false _ => 0
  | .dir _ size true true entries => duEntries size entries

def duEntries (size : Int64) : List FileInfo → Int64
  | [] => size
  | fi :: fis => if fi.isDots then duEntries size fis else duEntries (size + du fi) fis

end

namespace FileInfo

mutual

-- The bytes a tree holds: every entry's Size(), "." and ".." left out.
def totalSize : FileInfo → Nat
  | .file _ size => size.toNat
  | .dir _ size _ _ entries => size.toNat + totalEntries entries

def totalEntries : List FileInfo → Nat
  | [] => 0
  | fi :: fis => (if fi.isDots then 0 else fi.totalSize) + totalEntries fis

end

mutual

def readable : FileInfo → Bool
  | .file _ _ => true
  | .dir _ _ opens lists entries => opens && lists && readableEntries entries

def readableEntries : List FileInfo → Bool
  | [] => true
  | fi :: fis => (fi.isDots || fi.readable) && readableEntries fis

end

end FileInfo

open FileInfo

mutual

theorem du_of_readable : ∀ fi : FileInfo, fi.readable = true → du fi = BitVec.ofNat 64 fi.totalSize
  | .file _ size, _ => by simp [du, totalSize]
  | .dir _ size opens lists entries, read => by
    simp only [readable, Bool.and_eq_true] at read
    obtain ⟨⟨rfl, rfl⟩, rest⟩ := read
    rw [du, duEntries_of_readable size entries rest, totalSize, ← BitVec.ofNat_add_ofNat]
    simp

theorem duEntries_of_readable : ∀ (size : Int64) (fis : List FileInfo), readableEntries fis = true →
    duEntries size fis = size + BitVec.ofNat 64 (totalEntries fis)
  | size, [], _ => by simp [duEntries, totalEntries]
  | size, fi :: fis, read => by
    simp only [readableEntries, Bool.and_eq_true, Bool.or_eq_true] at read
    by_cases dots : fi.isDots
    · simp [duEntries, totalEntries, dots, duEntries_of_readable size fis read.2]
    · simp only [duEntries, totalEntries, dots, if_false, Bool.false_eq_true]
      rw [duEntries_of_readable _ fis read.2, du_of_readable fi (read.1.resolve_left dots),
        BitVec.add_assoc, BitVec.ofNat_add_ofNat]

end

-- A data directory with a database file and a "." entry whose listing would fail.
def chainDir : FileInfo :=
  .dir "chain" 4096 true true [.file "neutrino.db" 200000, .dir "." 4096 true false [],
    .dir "headers" 4096 true true [.file "block_headers.bin" 80000]]

theorem du_of_readable_chainDir :
    chainDir.readable = true ∧ du chainDir = BitVec.ofNat 64 chainDir.totalSize :=
  ⟨by decide, du_of_readable chainDir (by decide)⟩

mutual

theorem du_le_totalSize : ∀ fi : FileInfo, ∃ n ≤ fi.totalSize, du fi = BitVec.ofNat 64 n
  | .file _ size => ⟨size.toNat, le_refl _, by simp [du]⟩
  | .dir _ size false _ entries => ⟨size.toNat, by simp [totalSize], by simp [du]⟩
  | .dir _ _ true false _ => ⟨0, Nat.zero_le _, rfl⟩
  | .dir _ size true true entries => by
    obtain ⟨n, le, counted⟩ := duEntries_le_totalEntries size entries
    refine ⟨size.toNat + n, by simp [totalSize, le], ?_⟩
    rw [du, counted, ← BitVec.ofNat_add_ofNat]
    simp

theorem duEntries_le_totalEntries : ∀ (size : Int64) (fis : List FileInfo),
    ∃ n ≤ totalEntries fis, duEntries size fis = size + BitVec.ofNat 64 n
  | size, [] => ⟨0, le_refl _, by simp [duEntries]⟩
  | size, fi :: fis => by
    by_cases dots : fi.isDots
    · obtain ⟨n, le, counted⟩ := duEntries_le_totalEntries size fis
      exact ⟨n, by simp [totalEntries, dots, le], by simp [duEntries, dots, counted]⟩
    · obtain ⟨m, leSize, entry⟩ := du_le_totalSize fi
      obtain ⟨n, le, counted⟩ := duEntries_le_totalEntries (size + du fi) fis
      refine ⟨m + n, by simp [totalEntries, dots]; omega, ?_⟩
      simp only [duEntries, dots, if_false, Bool.false_eq_true]
      rw [counted, entry, BitVec.add_assoc, BitVec.ofNat_add_ofNat]

end

-- The two failures differ: a directory that does not list counts nothing, not even its own size.
example : du (.dir "d" 4096 true false [.file "f" 1]) = 0 ∧
    du (.dir "d" 4096 false true [.file "f" 1]) = 4096 := by
  decide

end Breez.Lnnode
