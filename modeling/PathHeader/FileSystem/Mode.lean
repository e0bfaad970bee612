/-! The permission bits of files. All files belong to the one who runs the program, so that only the
owner's bits decide; directories let everyone in. -/
namespace PathHeader.FileSystem

def newFileMode : Nat := 0o644

def mayRead (mode : Nat) : Bool := mode &&& 0o400 ≠ 0

def mayWrite (mode : Nat) : Bool := mode &&& 0o200 ≠ 0

theorem mayRead_newFileMode : mayRead newFileMode = true := by decide

theorem mayWrite_newFileMode : mayWrite newFileMode = true := by decide

end PathHeader.FileSystem
