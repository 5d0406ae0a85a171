/-
Record classes and their instances. A class that extends another has the other's
fields first; a field that it declares again stays in its place, and the table of
the other is its own unless it names one. An instance has a value for every
field: a given one that conforms to the annotation, or the one that the field
presets.
-/
import Relvar.RecordClass.Annotation
import Relvar.RecordClass.Conform
import Relvar.Value.Dict

set_option autoImplicit false

namespace Relvar.RecordClass

/-! ## Extending -/

/-- Fields with one more declared: in place of the field of its name, or last. -/
def declare (fields : List ClassField) (f : ClassField) : List ClassField :=
  if fields.any (·.name == f.name) then fields.map fun g => if g.name == f.name then f else g
  else fields ++ [f]

/-- The class that extends another with fields and, if given, a table. All names of
fields are judged before the first annotation. -/
def extending (parent : Option RecordClass) (name : String) (table : Option Value)
    (fields : List ClassField) : Except Fault RecordClass := do
  fields.forM fun f => ClassField.checkName f.name
  let annotated ← fields.mapM fun f => do
    return { f with annotation := ← ClassField.annotationOf name f.annotation }
  return {
    name := name
    table := table.or (parent.bind (·.table))
    fields := annotated.foldl declare ((parent.map (·.fields)).getD []) }

/-! ## Instances -/

/-- The value that a field presets, if any, at a present moment. -/
def presetValue? (now : Moment) : Preset Value → Option Value
  | .required => none
  | .value v => some v
  | .clock => some (.moment now)
  | .factory v => some v

mutual

/-- What an annotated place takes of a value. A place that is annotated with a record
class takes a mapping of which it is made. -/
def accept (now : Moment) (l : Lengths) (place : List Place) (wanted v : Value) :
    Except Fault (Checked Value) :=
  match wanted with
  | .type form => v.conformTo l place form
  | .recordClass c => match v.asMapping? with
    | some es => do
      let parts ← fill now place es c.fields
      return parts.map (.object c.name)
    | none => .ok (.error [⟨.notRecord, place⟩])
  | _ => .ok (.ok v)
termination_by sizeOf wanted
decreasing_by
  cases c
  simp_wf
  omega

/-- The values of fields, given some by their names, with the fields that have none. -/
def fill (now : Moment) (place : List Place) (given : List (Value × Value))
    (fields : List ClassField) : Except Fault (Checked (List (String × Value))) :=
  match fields with
  | [] => .ok (.ok [])
  | ⟨name, annotation, preset, least, greatest, _⟩ :: fs => do
    let here := place ++ [.name name]
    let part ← match Dict.find? given (.str name), presetValue? now preset with
      | some v, _ => accept now ⟨least, greatest⟩ here annotation v
      | none, some v => .ok (.ok v)
      | none, none => .ok (.error [⟨.absent, here⟩])
    let rest ← fill now place given fs
    return (Checked.start fun v vs => (name, v) :: vs).with part |>.with rest
termination_by sizeOf fields

end

/-- The instance of a class with given values. -/
def build (c : RecordClass) (now : Moment) (given : List (String × Value)) :
    Except Fault Value := do
  let parts ← fill now [] (Dict.ofStrings given) c.fields
  match parts with
  | .ok vs => return .object c.name vs
  | .error es => throw (.invalid ⟨c.name, es⟩)

end Relvar.RecordClass
