import CodeIndex.Files.Disk
import CodeIndex.Text.Utf8
import Std.Data.TreeMap

/-!
# Files read once

The cache hands out files by their address. A file is read when its text is first asked for, and the
text is kept until it is forgotten. A file that has been handed out can still be used after the
cache has dropped its address, and another one may take its place.
-/

namespace CodeIndex

/-- Why a file's text could not be had. -/
inductive FileError where
  | notFileUri (uri : String)
  | unsupported (path : String)
  | unreadable (path : String) (fault : Fault)
  deriving DecidableEq, Repr

/-- The words for a failure, followed by those for what lies behind it. -/
def FileError.causes : FileError → List String
  | notFileUri uri => ["Not a file URI: " ++ uri]
  | unsupported path => ["Unsupported file type: " ++ path]
  | unreadable path fault => ["Failed to read " ++ path, fault.message]

/-- A file that has been handed out. -/
structure CachedFile where
  path : String
  language : Language
  /-- The text that was read, while it is kept. -/
  text : Option String := none
  deriving DecidableEq, Repr

/-- A file's text; a file with a zero byte is no text. -/
def textOf (bytes : ByteArray) : Option String :=
  if bytes.toList.contains 0 then none else some (Utf8.decode bytes)

/-- The path and the language of the file at an address. -/
def fileAt (uri : String) : Except FileError (String × Language) :=
  match Uri.path? uri with
  | none => .error (.notFileUri uri)
  | some path => match Language.ofPath? path with
    | none => .error (.unsupported path)
    | some language => .ok (path, language)

/-- A file that the cache has handed out, by its place among all of them. -/
abbrev Handle := Nat

structure FileCache where
  /-- All files ever handed out. -/
  files : Array CachedFile := #[]
  /-- The file that each address stands for now. -/
  current : Std.TreeMap String Handle := {}

namespace FileCache

/-- The file that an address stands for. -/
def get? (c : FileCache) (uri : String) : Option Handle := c.current[uri]?

/-- The file that an address stands for; a new one is made if there is none. -/
def obtain (c : FileCache) (uri : String) : Except FileError (Handle × FileCache) :=
  match c.get? uri with
  | some h => .ok (h, c)
  | none => (fileAt uri).map fun (path, language) =>
    (c.files.size, ⟨c.files.push { path, language }, c.current.insert uri c.files.size⟩)

/-- The kept text of a file. -/
def cached (c : FileCache) (h : Handle) : Option String := c.files[h]?.bind (·.text)

def language? (c : FileCache) (h : Handle) : Option Language := c.files[h]?.map (·.language)

/-- Keep a text of a file, or none. -/
def setText (c : FileCache) (h : Handle) (text : Option String) : FileCache :=
  { c with files := c.files.modify h fun f => { f with text } }

/-- The text of a file, read if it is not kept. A file that is no text gives none. -/
def load (c : FileCache) (read : Reader) (h : Handle) :
    Except FileError (Option String) × FileCache :=
  match c.files[h]? with
  | none => (.ok none, c)
  | some f => match f.text with
    | some text => (.ok (some text), c)
    | none => match read f.path with
      | .error fault => (.error (.unreadable f.path fault), c)
      | .ok bytes => match textOf bytes with
        | some text => (.ok (some text), c.setText h (some text))
        | none => (.ok none, c)

/-- Forget the text of a file. -/
def forget (c : FileCache) (h : Handle) : FileCache := c.setText h none

/-- Forget the text of the file that an address stands for. -/
def invalidate (c : FileCache) (uri : String) : FileCache :=
  match c.get? uri with
  | some h => c.forget h
  | none => c

/-- Drop an address. The file that it stood for keeps its text. -/
def remove (c : FileCache) (uri : String) : FileCache := { c with current := c.current.erase uri }

/-- How many addresses stand for a file. -/
def size (c : FileCache) : Nat := c.current.size

/-- The language and text of the file at an address, unless it cannot be had. -/
def source (c : FileCache) (read : Reader) (uri : String) :
    Option (Language × String) × FileCache :=
  match c.obtain uri with
  | .error _ => (none, c)
  | .ok (h, c) => match c.load read h with
    | (.ok (some text), c') => ((c'.language? h).map (·, text), c')
    | (_, c') => (none, c')

end FileCache

end CodeIndex
