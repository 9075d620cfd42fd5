import RequestLog.Output.Device
import RequestLog.Output.Files

/-!
The outputs there are: a tree of files and a row of devices, and the handles opened on them.
-/

namespace RequestLog

inductive Backing where
  | file (number : Nat)
  | special (which : Special)
  | device (index : Nat)
deriving DecidableEq, Repr

structure OpenOutput where
  backing : Backing
  /-- Bytes taken since it was opened. -/
  taken : Nat := 0
deriving DecidableEq, Repr

structure World where
  files : Files := {}
  devices : List Device := []
  /-- Devices handed out so far. -/
  used : Nat := 0
  handles : List OpenOutput := []
deriving DecidableEq, Repr

namespace World

def addHandle (world : World) (backing : Backing) : Handle × World :=
  (world.handles.length, { world with handles := world.handles ++ [{ backing }] })

def backing? (world : World) (handle : Handle) : Option Backing :=
  (world.handles[handle]?).map (·.backing)

/-- Bytes that a handle took since it was opened. -/
def taken (world : World) (handle : Handle) : Nat :=
  ((world.handles[handle]?).map (·.taken)).getD 0

def addTaken (world : World) (handle : Handle) (count : Nat) : World :=
  { world with
    handles := world.handles.modify handle fun o => { o with taken := o.taken + count } }

def setDevice (world : World) (index : Nat) (device : Device) : World :=
  { world with devices := world.devices.set index device }

/-! ### Opening -/

def openFile (path : String) (world : World) : Except IoError Handle × World :=
  match world.files.openAppend path with
  | (.error cause, files) => (.error cause, { world with files })
  | (.ok (.special which), files) =>
    let (handle, world) := { world with files }.addHandle (.special which)
    (.ok handle, world)
  | (.ok (.file number), files) =>
    let (handle, world) := { world with files }.addHandle (.file number)
    (.ok handle, world)

/-- Hands out the next device, whether it opens or not. -/
def openDevice (world : World) : Except IoError Handle × World :=
  match world.devices[world.used]? with
  | none => (.error (.failed "no output left"), world)
  | some next =>
    let after := { world with used := world.used + 1 }
    match next.openError with
    | some text => (.error (.failed text), after)
    | none =>
      let (handle, after) := after.addHandle (.device world.used)
      (.ok handle, after)

def adoptDevice (world : World) : Option (Handle × World) :=
  if world.used < world.devices.length then
    some ({ world with used := world.used + 1 }.addHandle (.device world.used))
  else none

/-! ### Calls on a handle -/

def totalLength (slices : List Bytes) : Nat := slices.flatten.length

/-- Files take all that is offered. -/
def writeTo (backing : Backing) (slices : List Bytes) (world : World) : WriteReply × World :=
  match backing with
  | .file number =>
    (.took (totalLength slices),
      { world with files := world.files.appendTo number slices.flatten })
  | .special .null => (.took (totalLength slices), world)
  | .special .full =>
    if totalLength slices = 0 then (.took 0, world) else (.failed .noSpace, world)
  | .device index =>
    match world.devices[index]? with
    | none => (.failed .invalidArgument, world)
    | some found =>
      let (reply, changed) := found.write slices
      (reply, world.setDevice index changed)

def write (handle : Handle) (slices : List Bytes) (world : World) : WriteReply × World :=
  match world.backing? handle with
  | none => (.failed .invalidArgument, world)
  | some backing =>
    let (reply, world) := world.writeTo backing slices
    match reply with
    | .took count => (reply, world.addTaken handle count)
    | _ => (reply, world)

def flushOf (world : World) : Backing → Reply
  | .file _ => .done
  | .special _ => .done
  | .device index =>
    match world.devices[index]? with
    | some found => found.flush
    | none => .done

def flush (handle : Handle) (world : World) : Reply × World :=
  match world.backing? handle with
  | none => (.done, world)
  | some backing => (world.flushOf backing, world)

/-- Files are synced; the special ones cannot be. Devices are only flushed. -/
def finish (handle : Handle) (world : World) : Reply × World :=
  match world.backing? handle with
  | none => (.done, world)
  | some (.special _) => (.failed .invalidArgument, world)
  | some backing => (world.flushOf backing, world)

/-- The interruptions that are still to come. -/
def patience (handle : Handle) (world : World) : Nat :=
  match world.backing? handle with
  | some (.device index) => ((world.devices[index]?).map (·.interrupts)).getD 0
  | _ => 0

theorem patience_interrupted (handle : Handle) (slices : List Bytes) (world : World)
    (h : (write handle slices world).1 = .interrupted) :
    patience handle (write handle slices world).2 < patience handle world := by
  cases hb : world.backing? handle with
  | none => simp [write, hb] at h
  | some backing =>
    cases backing with
    | file number => simp [write, hb, writeTo] at h
    | special which =>
      cases which with
      | null => simp [write, hb, writeTo] at h
      | full =>
        by_cases ht : totalLength slices = 0 <;> simp [write, hb, writeTo, ht] at h
    | device index =>
      cases hd : world.devices[index]? with
      | none => simp [write, hb, writeTo, hd] at h
      | some found =>
        have hr : (found.write slices).1 = .interrupted := by
          simp only [write, hb, writeTo, hd] at h
          split at h
          · rename_i heq
            simp only at h
            rw [heq] at h
            simp at h
          · exact h
        have hlt := Device.write_interrupted hr
        have hi : index < world.devices.length := (List.getElem?_eq_some_iff.1 hd).1
        have hb' : backing? (world.setDevice index (found.write slices).2) handle =
            some (.device index) := hb
        simp only [write, hb, writeTo, hd, hr, patience, hb']
        simpa [setDevice, hi, hd] using hlt

end World

def World.fileOutputs : Outputs World where
  openPath := World.openFile
  write := World.write
  flush := World.flush
  finish := World.finish
  patience := World.patience
  patience_interrupted := World.patience_interrupted

/-- The devices of a world as a sink's outputs, whatever the path. -/
def World.deviceOutputs : Outputs World :=
  { World.fileOutputs with openPath := fun _ => World.openDevice }

end RequestLog
