import KeyApproval.Delivery.Flag
import KeyApproval.Delivery.Sink
import KeyApproval.Text.Utf8

/-!
# Delivery to a writer

The module `stdout` writes the secret to a writer and flushes it: the bytes of the secret and nothing else.
It is enabled unless its table says otherwise.
-/

namespace KeyApproval

/-- A sink of bytes. -/
structure Writer where
  taken : List UInt8 := []
  /-- The most bytes that are taken at a time. -/
  limit : Option Nat := none
  writeFault : Option String := none
  flushFault : Option String := none

namespace Writer

def take (w : Writer) (bytes : List UInt8) : Writer := { w with taken := w.taken ++ bytes }

/-- Writes piece by piece until everything is taken. -/
def writeAll (w : Writer) (bytes : List UInt8) : Except String Unit × Writer :=
  match bytes with
  | [] => (.ok (), w)
  | b :: rest =>
    match w.writeFault, w.limit with
    | some fault, _ => (.error fault, w)
    | none, none => (.ok (), w.take (b :: rest))
    | none, some 0 => (.error "failed to write whole buffer", w)
    | none, some (n + 1) => (w.take (b :: rest.take n)).writeAll (rest.drop n)
termination_by bytes.length
decreasing_by
  simp only [List.length_drop, List.length_cons]
  omega

theorem taken_writeAll {w : Writer} {bytes : List UInt8} (h : (w.writeAll bytes).1 = .ok ()) :
    (w.writeAll bytes).2.taken = w.taken ++ bytes := by
  fun_induction writeAll w bytes with
  | case1 => simp
  | case2 => cases h
  | case3 => rfl
  | case4 => cases h
  | case5 w b rest _ n _ ih =>
    rw [ih h]
    simp [take, List.take_append_drop]

def flush (w : Writer) : Except String Unit :=
  match w.flushFault with
  | some fault => .error fault
  | none => .ok ()

end Writer

structure WriterSink where
  enabled : Bool := true
  writer : Writer := {}

namespace WriterSink

def configure (table : Toml.Table) (m : WriterSink) : Except Failure Unit × WriterSink :=
  match readFlag "enabled" table with
  | .ok flag => (.ok (), { m with enabled := flag.getD m.enabled })
  | .error f => (.error f, m)

def deliver (secret : String) (m : WriterSink) : Except Failure Unit × WriterSink :=
  let (written, writer) := m.writer.writeAll (Text.Utf8.encodeString secret)
  match written.bind fun () => writer.flush with
  | .ok () => (.ok (), { m with writer })
  | .error cause => (.error ⟨"Failed to write the key to standard output", [cause]⟩, { m with writer })

instance : Sink WriterSink where
  name _ := "stdout"
  isEnabled := enabled
  perform
    | .configure table => configure table
    | .deliver secret => deliver secret
    | .start | .report _ | .cleanUp => fun m => (.ok (), m)

end WriterSink

end KeyApproval
