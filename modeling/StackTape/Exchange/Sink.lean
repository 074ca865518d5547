import StackTape.Exchange.Emission

namespace StackTape

/-!
# Sinks of output

A sink takes emissions.  It keeps them as they are, or keeps their renderings, or
writes the renderings to a device, either plainly or announced one by one.  A device
may have a limit in bytes; it refuses a write that would exceed the limit and holds
nothing of it.
-/

/-- Something that bytes are written to; the texts held, newest first. -/
structure Device where
  limit : Option Nat
  newestFirst : List Text
  deriving DecidableEq

namespace Device

/-- A device that holds nothing yet. -/
def blank (limit : Option Nat) : Device :=
  ⟨limit, []⟩

/-- Everything the device holds. -/
def contents (device : Device) : Text :=
  device.newestFirst.reverse.flatten

/-- Whether the device has room for a text. -/
def hasRoom
    (device : Device)
    (text : Text) : Bool :=
  match device.limit with
  | none =>
      true
  | some limit =>
      Text.utf8Size device.contents + Text.utf8Size text ≤ limit

/-- Write a text; writing nothing always succeeds. -/
def write?
    (device : Device)
    (text : Text) : Option Device :=
  if text = [] then
    some device
  else if device.hasRoom text then
    some { device with newestFirst := text :: device.newestFirst }
  else
    none

/-- A successful write appends the text. -/
theorem contents_of_write?
    {device after : Device}
    {text : Text}
    (written : device.write? text = some after) :
    after.contents = device.contents ++ text := by
  unfold write? at written
  split at written
  · rename_i nothing
    cases written
    simp [nothing]
  · split at written
    · cases written
      simp [contents]
    · cases written

end Device

/-- Where a program's output goes; what is kept, newest first. -/
inductive Sink where
  /-- The emissions themselves. -/
  | emissions (newestFirst : List Emission)
  /-- Their renderings. -/
  | text (newestFirst : List Text)
  /-- Their renderings, one write each. -/
  | plain (device : Device)
  /-- Their renderings, each announced on a line of its own, with a transcript. -/
  | announced (device : Device) (transcript : List Text)
  deriving DecidableEq

namespace Sink

/-- What stands before an announced rendering. -/
def announcement : Text :=
  "outputted: ".toList

/-- The reason a device gives for refusing a write. -/
def refusal : String :=
  "sink is full"

/-- Write texts one after the other up to the first refusal. -/
def writeAll
    (device : Device) : List Text → Device × Bool
  | [] =>
      (device, true)
  | piece :: rest =>
      match device.write? piece with
      | some after =>
          writeAll after rest
      | none =>
          (device, false)

/-- Take an emission; on a refusal the sink that is left behind. -/
def emit : Sink → Emission → Except Sink Sink
  | .emissions newestFirst, emission =>
      .ok (.emissions (emission :: newestFirst))
  | .text newestFirst, emission =>
      .ok (.text (emission.render :: newestFirst))
  | .plain device, emission =>
      match device.write? emission.render with
      | some after =>
          .ok (.plain after)
      | none =>
          .error (.plain device)
  | .announced device transcript, emission =>
      match writeAll device [announcement, emission.render, ['\n']] with
      | (after, true) =>
          .ok (.announced after (emission.render :: transcript))
      | (after, false) =>
          .error (.announced after transcript)

/-- Everything output so far, as plain output would show it. -/
def output : Sink → Text
  | .emissions newestFirst =>
      (newestFirst.reverse.map Emission.render).flatten
  | .text newestFirst =>
      newestFirst.reverse.flatten
  | .plain device =>
      device.contents
  | .announced _ transcript =>
      transcript.reverse.flatten

/-- A sink that takes an emission shows its rendering last. -/
theorem output_of_emit
    {sink after : Sink}
    {emission : Emission}
    (taken : sink.emit emission = .ok after) :
    after.output = sink.output ++ emission.render := by
  cases sink with
  | emissions newestFirst =>
      cases taken
      simp [output]
  | text newestFirst =>
      cases taken
      simp [output]
  | plain device =>
      simp only [emit] at taken
      split at taken
      · rename_i written
        cases taken
        simp [output, Device.contents_of_write? written]
      · cases taken
  | announced device transcript =>
      simp only [emit] at taken
      split at taken
      · cases taken
        simp [output]
      · cases taken

end Sink

end StackTape
