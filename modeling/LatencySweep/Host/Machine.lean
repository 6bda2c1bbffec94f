import LatencySweep.Host.Housekeeping
import LatencySweep.Text.Raw

/-
  The files that programs on one machine have open.

  An opened file, pipe or device is a channel. Programs
  reach channels through descriptors, and two descriptors
  that lead to one channel share its position.

  Key definitions include:
    * `Channel`
    * `Machine`
    * `Machine.openPath`
    * `Machine.write`
    * `Machine.readAll`
    * `Machine.readLine`
    * `Descriptors`
-/

namespace LatencySweep

------------------------------------------------------------
-- Channels
------------------------------------------------------------

/- What was opened, and how far it was read or written. A
   pipe holds what was written and not yet read. -/
inductive Channel where
  | file (place : Location) (position : Nat) (appends : Bool)
  | pipe (content : Bytes)
  | null
  | full
  deriving DecidableEq

/- The file tree and the channels, which are known by their
   numbers. -/
structure Machine where
  tree : FileTree
  channels : List Channel := []
  deriving DecidableEq

/- How a file is opened. -/
inductive OpenMode where
  | read
  | readWrite
  | replace
  | append
  deriving DecidableEq

/- Descriptors and the numbers of their channels. -/
abbrev Descriptors := List (Nat × Nat)

namespace Descriptors

/- The channel of a descriptor. -/
def channel? (ds : Descriptors) (fd : Nat) : Option Nat :=
  (ds.find? fun d => d.1 = fd).map Prod.snd

/- The descriptors without one of them. -/
def close (ds : Descriptors) (fd : Nat) : Descriptors :=
  ds.filter fun d => d.1 ≠ fd

/- The descriptors with one of them leading to a channel. -/
def set
    (ds : Descriptors)
    (fd channel : Nat) : Descriptors :=
  (fd, channel) :: close ds fd

end Descriptors

namespace Machine

/- The channel with a number. -/
def channel? (m : Machine) (number : Nat) : Option Channel :=
  m.channels[number]?

/- The machine with a channel in another state. -/
def setChannel
    (m : Machine)
    (number : Nat)
    (channel : Channel) : Machine :=
  { m with channels := m.channels.set number channel }

/- The machine with one more channel, and its number. -/
def addChannel
    (m : Machine)
    (channel : Channel) : Nat × Machine :=
  (m.channels.length,
    { m with channels := m.channels ++ [channel] })

------------------------------------------------------------
-- Opening
------------------------------------------------------------

/- The descriptor that a device path stands for. -/
def devicePath? (path : String) : Option Nat :=
  if path = "/dev/stdin" then some 0
  else if path = "/dev/stdout" then some 1
  else if path = "/dev/stderr" then some 2
  else
    match path.toList with
    | '/' :: 'd' :: 'e' :: 'v' :: '/' :: 'f' :: 'd' :: '/' ::
        [digit] =>
        if digit.isDigit then
          some (digit.toNat - '0'.toNat)
        else none
    | _ => none

/- The device at a path. -/
def device? (path : String) : Option Channel :=
  if path = "/dev/null" then some .null
  else if path = "/dev/full" then some .full
  else none

/- Open a file at a place of the tree. -/
def openPlace
    (m : Machine)
    (mode : OpenMode)
    (place : Location) : Nat × Machine :=
  let cleared :=
    if mode = .replace then
      { m with tree := m.tree.put place (.file []) }
    else m
  cleared.addChannel (.file place 0 (mode = .append))

/- Open a path of the tree. What is opened to be changed is
   created if it is missing. -/
def openFile
    (m : Machine)
    (mode : OpenMode)
    (path : Path) : Except OsError (Nat × Machine) :=
  if mode = .read then
    match m.tree.entryAt path with
    | .error e => .error e
    | .ok (target, _) => .ok (m.openPlace mode target.location)
  else
    match m.tree.openForWriting path with
    | .error e => .error e
    | .ok (place, content) =>
        let tree := m.tree.put place (.file content)
        .ok ({ m with tree := tree }.openPlace mode place)

/- Open once more what a descriptor leads to. A file is
   opened anew, with a position of its own. -/
def reopen
    (m : Machine)
    (mode : OpenMode)
    (number : Nat) : Nat × Machine :=
  match m.channel? number with
  | some (.file place _ _) => m.openPlace mode place
  | _ => (number, m)

/- Open a path, which may be that of a device or of an open
   descriptor. -/
def openPath
    (m : Machine)
    (descriptors : Descriptors)
    (mode : OpenMode)
    (path : Path) : Except OsError (Nat × Machine) :=
  match devicePath? path.text, device? path.text with
  | some fd, _ =>
      match descriptors.channel? fd with
      | some number => .ok (m.reopen mode number)
      | none => .error .notFound
  | none, some device => .ok (m.addChannel device)
  | none, none => m.openFile mode path

------------------------------------------------------------
-- Writing
------------------------------------------------------------

/- A content with bytes put at a position. -/
def overwrite
    (content : Bytes)
    (position : Nat)
    (bytes : Bytes) : Bytes :=
  content.take position ++
    List.replicate (position - content.length) 0 ++ bytes ++
      content.drop (position + bytes.length)

/- Write to a channel. -/
def writeTo
    (m : Machine)
    (number : Nat)
    (bytes : Bytes) : Except OsError Machine :=
  match m.channel? number with
  | none => .error .badDescriptor
  | some .null => .ok m
  | some .full =>
      if bytes = [] then .ok m else .error .noSpace
  | some (.pipe content) =>
      .ok (m.setChannel number (.pipe (content ++ bytes)))
  | some (.file place position appends) =>
      match m.tree.find? place with
      | some (.file content) =>
          let start :=
            if appends then content.length else position
          let tree := m.tree.put place
            (.file (overwrite content start bytes))
          .ok ({ m with tree := tree }.setChannel number
            (.file place (start + bytes.length) appends))
      | some .directory => .error .badDescriptor
      | none => .ok m

/- Write to a descriptor. -/
def write
    (m : Machine)
    (descriptors : Descriptors)
    (fd : Nat)
    (bytes : Bytes) : Except OsError Machine :=
  match descriptors.channel? fd with
  | none => .error .badDescriptor
  | some number => m.writeTo number bytes

------------------------------------------------------------
-- Reading
------------------------------------------------------------

/- What a channel still has to give. -/
def ahead
    (m : Machine)
    (channel : Channel) : Except OsError Bytes :=
  match channel with
  | .null | .full => .ok []
  | .pipe content => .ok content
  | .file place position _ =>
      match m.tree.find? place with
      | some (.file content) => .ok (content.drop position)
      | some .directory => .error .isDirectory
      | none => .ok []

/- A channel after some bytes were read from it. -/
def behind (channel : Channel) (count : Nat) : Channel :=
  match channel with
  | .null => .null
  | .full => .full
  | .pipe content => .pipe (content.drop count)
  | .file place position appends =>
      .file place (position + count) appends

/- Read the part of what is ahead that a function takes. -/
def readPart
    (m : Machine)
    (descriptors : Descriptors)
    (fd : Nat)
    (take : Bytes → Bytes) : Except OsError (Bytes × Machine) :=
  match descriptors.channel? fd with
  | none => .error .badDescriptor
  | some number =>
      match m.channel? number with
      | none => .error .badDescriptor
      | some channel =>
          match m.ahead channel with
          | .error e => .error e
          | .ok content =>
              let part := take content
              .ok (part,
                m.setChannel number
                  (behind channel part.length))

/- Read everything that is left. -/
def readAll
    (m : Machine)
    (descriptors : Descriptors)
    (fd : Nat) : Except OsError (Bytes × Machine) :=
  m.readPart descriptors fd id

/- The bytes up to the first line feed, which belongs to
   them. -/
def firstLine : Bytes → Bytes
  | [] => []
  | b :: rest => if b = 10 then [b] else b :: firstLine rest

/- Read a line together with its line feed. -/
def readLine
    (m : Machine)
    (descriptors : Descriptors)
    (fd : Nat) : Except OsError (Bytes × Machine) :=
  m.readPart descriptors fd firstLine

end Machine

end LatencySweep
