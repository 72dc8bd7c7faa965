/-
  TokenMarshal.Marshal.Codec — values as octets and back.

  Writing: a boolean is one octet, a number eight, a list of mechanisms eight each, a date
  its digits, a text what the encoding in force makes of it, a template the block of its
  fields. What has no value is left out. Reading goes by the kind of the code: octets that
  do not have the shape of that kind stay octets, any octet but zero makes a boolean true,
  one to eight octets make a number, and the members of a block are set one by one.
-/
import TokenMarshal.Attribute.Template
import TokenMarshal.Marshal.Block
import TokenMarshal.Text.Encoding

namespace TokenMarshal

open Marshal Text

mutual

/-- The octets of a value; none for what is not sent. -/
def Value.encode (e : Encoding) : Value → Option (List UInt8)
  | .absent => none
  | .bool b => some [if b then 1 else 0]
  | .number n => some (Word.toBytes n)
  | .bytes b => some b
  | .text s => some (e.encode s)
  | .date d => some d.toBytes
  | .mechanisms l => some (l.flatMap Word.toBytes)
  | .template t => some (Block.encode (Template.encode e t))

/-- The fields of the attributes that have a value, in order. -/
def Template.encode (e : Encoding) : Template → List Field
  | ⟨l⟩ => Attribute.encodeAll e l

def Attribute.encodeAll (e : Encoding) : List Attribute → List Field
  | [] => []
  | a :: l => (Attribute.encode? e a).toList ++ Attribute.encodeAll e l

def Attribute.encode? (e : Encoding) : Attribute → Option Field
  | ⟨code, v, _, _⟩ => (Value.encode e v).map (Field.holding code)

end

/-- Reads octets as the kind of value that a code stands for. -/
def Value.decode (e : Encoding) (code : AttributeCode) (b : List UInt8) : Value :=
  match code.kind with
  | .boolean => .bool (b.any (· != 0))
  | .number => ((Word.ofBytes? b).map .number).getD (.bytes b)
  | .text => .text (e.decode b)
  | .bytes => .bytes b
  | .numberList => ((Word.listOfBytes? b).map .mechanisms).getD (.bytes b)
  | .date => ((Date.ofBytes? b).map .date).getD (.bytes b)
  | .template =>
    match _h : Block.decode? b with
    | none => .bytes b
    | some fields =>
      .template <| .ofList <| fields.attach.map fun ⟨f, _hf⟩ =>
        match _hb : f.content with
        | .payload p => ⟨f.code, Value.decode e f.code p, true, false⟩
        | .missing len => ⟨f.code, .absent, len == unavailable, false⟩
termination_by b.length
decreasing_by exact Block.payload_length_lt _h _hf _hb

/-- The attribute that a field tells of. -/
def Marshal.Field.decode (e : Encoding) (f : Field) : Attribute :=
  match f.content with
  | .payload p => ⟨f.code, Value.decode e f.code p, true, false⟩
  | .missing len => ⟨f.code, .absent, len == unavailable, false⟩

theorem Value.decode_template (e : Encoding) (code : AttributeCode) (b : List UInt8)
    (hk : code.kind = .template) :
    Value.decode e code b =
      match Block.decode? b with
      | none => .bytes b
      | some fields => .template (.ofList (fields.map (Field.decode e))) := by
  rw [Value.decode, hk]
  simp only
  split
  next h => rw [h]
  next fields h =>
    have values : fields.attach.map (fun x => Field.decode e x.1) = fields.map (Field.decode e) := by
      simp
    rw [h]
    simp only [← values]
    congr 2
    apply List.map_congr_left
    intro ⟨f, hf⟩ _
    simp only [Field.decode]
    split <;> split <;> simp_all

end TokenMarshal
