import HttpBridge.Json.Scan
/-!
JSON texts as trees. A text that is not well formed has a tree too, which ends where its first fault
is, so that a reader that finds something else than it asks for can say so before it comes to the
fault.
-/

namespace HttpBridge.Json

abbrev Key := Except Flaw String

inductive Gap
  | ended
  | other
  | comma
  | commaEnded
  deriving DecidableEq

mutual

inductive Node
  | text (reading : Reading String)
  | scalar (reading : Reading Scalar)
  | list (items : Items)
  | object (members : Members)
  | broken (f : Flaw)

inductive Items
  | done
  | broken (gap : Gap)
  | next (head : Node) (tail : Items)

/-- The members of an object. Where a key is due and something else stands, `stray` holds that. -/
inductive Members
  | done
  | broken (gap : Gap)
  | stray (found : Node)
  | next (key : Key) (value : Node) (tail : Members)

end

structure Document where
  root : Node
  more : Bool

inductive Frame
  | item (before : List Node)
  | member (before : List (Key × Node)) (key : Key)

inductive Due
  | value
  | firstItem
  | key (before : List (Key × Node))
  | colon (before : List (Key × Node)) (key : Key)
  | separator (value : Node)

def Items.after (before : List Node) (items : Items) : Items :=
  before.foldl (fun tail head => .next head tail) items

def Members.after (before : List (Key × Node)) (members : Members) : Members :=
  before.foldl (fun tail entry => .next entry.1 entry.2 tail) members

def stop : List Frame → Node → Document
  | [], n => ⟨n, false⟩
  | .item before :: frames, n => stop frames (.list (.after (n :: before) .done))
  | .member before key :: frames, n =>
    stop frames (.object (.after ((key, n) :: before) .done))

def stopAfter (frames : List Frame) (value : Node) (gap : Gap) : Document :=
  match frames with
  | [] => ⟨value, true⟩
  | .item before :: frames => stop frames (.list (.after (value :: before) (.broken gap)))
  | .member before key :: frames =>
    stop frames (.object (.after ((key, value) :: before) (.broken gap)))

def stopAtKey (frames : List Frame) (before : List (Key × Node)) (gap : Members) : Document :=
  stop frames (.object (.after before gap))

def atEnd (frames : List Frame) : Due → Document
  | .value =>
    match frames with
    | .item before :: frames => stop frames (.list (.after before (.broken .commaEnded)))
    | frames => stop frames (.broken .endInValue)
  | .firstItem => stop frames (.list (.broken .ended))
  | .key [] => stopAtKey frames [] (.broken .ended)
  | .key before => stopAtKey frames before (.broken .commaEnded)
  | .colon before key => stop (.member before key :: frames) (.broken .endInObject)
  | .separator value =>
    match frames with
    | [] => ⟨value, false⟩
    | frames => stopAfter frames value .ended

def takeValue (frames : List Frame) : Token → Document ⊕ (List Frame × Due)
  | .openList => .inr (frames, .firstItem)
  | .openObject => .inr (frames, .key [])
  | .text r => leaf r.skip (.text r)
  | .scalar r => leaf r.skip (.scalar r)
  | _ => .inl (stop frames (.broken .noValue))
where
  leaf (skip : Option Flaw) (n : Node) : Document ⊕ (List Frame × Due) :=
    if skip.isSome then .inl (stop frames n) else .inr (frames, .separator n)

def takeNext : List Frame → Token → Document ⊕ (List Frame × Due)
  | .item before :: frames, .closeList =>
    .inl (stop frames (.list (.after before (.broken .comma))))
  | frames, t => takeValue frames t

/-- Takes a key. The value of a key that breaks off is what is wrong with it for a reader that
passes over it. -/
def takeKey (frames : List Frame) (before : List (Key × Node)) :
    Token → Document ⊕ (List Frame × Due)
  | .text r =>
    match r.skip with
    | some f => .inl (stop (.member before r.value :: frames) (.broken f))
    | none => .inr (frames, .colon before r.value)
  | .scalar r => .inl (stopAtKey frames before (.stray (.scalar r)))
  | .openList => .inl (stopAtKey frames before (.stray (.list .done)))
  | .openObject => .inl (stopAtKey frames before (.stray (.object .done)))
  | .closeObject => .inl (stopAtKey frames before (.broken .comma))
  | _ => .inl (stopAtKey frames before (.stray (.broken .noValue)))

def takeSeparator (value : Node) : List Frame → Token → Document ⊕ (List Frame × Due)
  | .item before :: frames, .comma => .inr (.item (value :: before) :: frames, .value)
  | .item before :: frames, .closeList =>
    .inr (frames, .separator (.list (.after (value :: before) .done)))
  | .member before key :: frames, .comma => .inr (frames, .key ((key, value) :: before))
  | .member before key :: frames, .closeObject =>
    .inr (frames, .separator (.object (.after ((key, value) :: before) .done)))
  | frames, _ => .inl (stopAfter frames value .other)

def take (frames : List Frame) : Due → Token → Document ⊕ (List Frame × Due)
  | .value, t => takeNext frames t
  | .firstItem, .closeList => .inr (frames, .separator (.list .done))
  | .firstItem, t => takeValue (.item [] :: frames) t
  | .key [], .closeObject => .inr (frames, .separator (.object .done))
  | .key before, t => takeKey frames before t
  | .colon before key, .colon => .inr (.member before key :: frames, .value)
  | .colon before key, _ => .inl (stop (.member before key :: frames) (.broken .noColon))
  | .separator value, t => takeSeparator value frames t

def build (frames : List Frame) (due : Due) : List Token → Document
  | [] => atEnd frames due
  | t :: ts =>
    match take frames due t with
    | .inl document => document
    | .inr (frames, due) => build frames due ts

def parse (s : String) : Document :=
  build [] .value (tokens s)

def Gap.inList : Gap → Flaw
  | ended => .endInList
  | other => .noListEnd
  | comma => .lastComma
  | commaEnded => .endInValue

def Gap.inObject : Gap → Flaw
  | ended => .endInObject
  | other => .noObjectEnd
  | comma => .lastComma
  | commaEnded => .endInValue

mutual

/-- Holds what is wrong with a value for a reader that passes over it. To such a reader a comma only
means that more is due. -/
def Node.skip : Node → Option Flaw
  | .text r => r.skip
  | .scalar r => r.skip
  | .list items => items.skip
  | .object members => members.skip
  | .broken f => some f

def Items.skip : Items → Option Flaw
  | .done => none
  | .broken gap => some (if gap = .comma then .noValue else gap.inList)
  | .next head tail => (head.skip).or tail.skip

def Members.skip : Members → Option Flaw
  | .done => none
  | .broken gap =>
    some (if gap = .comma then .noKey else if gap = .commaEnded then .endInObject else gap.inObject)
  | .stray _ => some .noKey
  | .next _ value tail => (value.skip).or tail.skip

end

end HttpBridge.Json
