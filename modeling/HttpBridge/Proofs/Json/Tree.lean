import HttpBridge.Json.Node
import HttpBridge.Proofs.Json.Scan

namespace HttpBridge.Json

mutual

def Value.Fits : Value → Prop
  | .null | .boolean _ | .text _ => True
  | .integer n => IntegerFits n
  | .list items => ItemsFit items
  | .object members => MembersFit members

def ItemsFit : List Value → Prop
  | [] => True
  | v :: vs => v.Fits ∧ ItemsFit vs

def MembersFit : List (String × Value) → Prop
  | [] => True
  | (_, v) :: rest => v.Fits ∧ MembersFit rest

end

mutual

def Value.tokens : Value → List Token
  | .null => [.scalar ⟨.ok .null, none⟩]
  | .boolean b => [.scalar ⟨.ok (.boolean b), none⟩]
  | .integer n => [.scalar ⟨.ok (.integer n), none⟩]
  | .text s => [.text ⟨.ok s, none⟩]
  | .list items => .openList :: itemTokens items ++ [.closeList]
  | .object members => .openObject :: memberTokens members ++ [.closeObject]

def itemTokens : List Value → List Token
  | [] => []
  | [v] => v.tokens
  | v :: vs => v.tokens ++ .comma :: itemTokens vs

def memberTokens : List (String × Value) → List Token
  | [] => []
  | [(key, v)] => .text ⟨.ok key, none⟩ :: .colon :: v.tokens
  | (key, v) :: rest => .text ⟨.ok key, none⟩ :: .colon :: v.tokens ++ .comma :: memberTokens rest

end

mutual

def Value.tree : Value → Node
  | .null => .scalar ⟨.ok .null, none⟩
  | .boolean b => .scalar ⟨.ok (.boolean b), none⟩
  | .integer n => .scalar ⟨.ok (.integer n), none⟩
  | .text s => .text ⟨.ok s, none⟩
  | .list items => .list (itemTree items)
  | .object members => .object (memberTree members)

def itemTree : List Value → Items
  | [] => .done
  | v :: vs => .next v.tree (itemTree vs)

def memberTree : List (String × Value) → Members
  | [] => .done
  | (key, v) :: rest => .next (.ok key) v.tree (memberTree rest)

end

theorem scans_mark {c : Char} {t : Token} (rest : List Char) (hb : isBlank c = false)
    (h : ∀ cs, scanToken c cs = (t, cs)) : Scans (c :: rest) [t] rest :=
  .token hb (h rest) (Nat.le_refl _)

theorem scans_null (rest : List Char) :
    Scans (Value.null.write ++ rest) Value.null.tokens rest := by
  have read : scanToken 'n' ('u' :: 'l' :: 'l' :: rest) = (.scalar ⟨.ok .null, none⟩, rest) := rfl
  apply Scans.token (by decide) read
  simp only [List.length_cons]
  omega

theorem scans_boolean (b : Bool) (rest : List Char) :
    Scans ((Value.boolean b).write ++ rest) (Value.boolean b).tokens rest := by
  cases b with
  | false =>
    have read : scanToken 'f' ('a' :: 'l' :: 's' :: 'e' :: rest) =
        (.scalar ⟨.ok (.boolean false), none⟩, rest) := rfl
    apply Scans.token (by decide) read
    simp only [List.length_cons]
    omega
  | true =>
    have read : scanToken 't' ('r' :: 'u' :: 'e' :: rest) =
        (.scalar ⟨.ok (.boolean true), none⟩, rest) := rfl
    apply Scans.token (by decide) read
    simp only [List.length_cons]
    omega

theorem scans_member (key : String) (cs : List Char) :
    Scans (writeText key ++ ':' :: cs) [.text ⟨.ok key, none⟩, .colon] cs :=
  (scans_text key _).trans (scans_mark cs (by decide) fun _ => rfl)

mutual

theorem Value.scans_write :
    ∀ (v : Value), v.Fits → ∀ {rest : List Char}, Ends rest → Scans (v.write ++ rest) v.tokens rest
  | .null, _, rest, _ => scans_null rest
  | .boolean b, _, rest, _ => scans_boolean b rest
  | .integer _, hv, _, h => scans_integer h hv
  | .text s, _, rest, _ => scans_text s rest
  | .list items, hv, rest, _ => by
    have first := scans_mark (c := '[') (writeItems items ++ ']' :: rest) (by decide) fun _ => rfl
    have last := scans_mark (c := ']') rest (by decide) fun _ => rfl
    have all := first.trans ((scans_writeItems items hv (.list rest)).trans last)
    simpa [Value.write, Value.tokens] using all
  | .object members, hv, rest, _ => by
    have first := scans_mark (c := '\x7b') (writeMembers members ++ '\x7d' :: rest) (by decide)
      fun _ => rfl
    have last := scans_mark (c := '\x7d') rest (by decide) fun _ => rfl
    have all := first.trans ((scans_writeMembers members hv (.object rest)).trans last)
    simpa [Value.write, Value.tokens] using all

theorem scans_writeItems :
    ∀ (items : List Value), ItemsFit items → ∀ {rest : List Char}, Ends rest →
      Scans (writeItems items ++ rest) (itemTokens items) rest
  | [], _, rest, _ => .refl rest
  | [v], hv, _, h => v.scans_write hv.1 h
  | v :: w :: vs, hv, rest, h => by
    have head := v.scans_write hv.1 (.comma (writeItems (w :: vs) ++ rest))
    have comma := scans_mark (c := ',') (writeItems (w :: vs) ++ rest) (by decide) fun _ => rfl
    have all := head.trans (comma.trans (scans_writeItems (w :: vs) hv.2 h))
    simpa [writeItems, itemTokens] using all

theorem scans_writeMembers :
    ∀ (members : List (String × Value)), MembersFit members → ∀ {rest : List Char}, Ends rest →
      Scans (writeMembers members ++ rest) (memberTokens members) rest
  | [], _, rest, _ => .refl rest
  | [(key, v)], hv, rest, h => by
    have all := (scans_member key (v.write ++ rest)).trans (v.scans_write hv.1 h)
    simpa [writeMembers, memberTokens] using all
  | (key, v) :: m :: ms, hv, rest, h => by
    have name := scans_member key (v.write ++ ',' :: (writeMembers (m :: ms) ++ rest))
    have head := v.scans_write hv.1 (.comma (writeMembers (m :: ms) ++ rest))
    have comma := scans_mark (c := ',') (writeMembers (m :: ms) ++ rest) (by decide) fun _ => rfl
    have all := name.trans (head.trans (comma.trans (scans_writeMembers (m :: ms) hv.2 h)))
    simpa [writeMembers, memberTokens] using all

end

theorem tokens_render (v : Value) (hv : v.Fits) : tokens v.render = v.tokens := by
  obtain ⟨left, -, h⟩ := v.scans_write hv .text _ (Nat.le_refl _)
  rw [List.append_nil] at h
  have nil : tokensUpTo left [] = [] := by cases left <;> rfl
  rw [tokens, Value.render, String.toList_ofList, h, nil, List.append_nil]

theorem build_goesOn {frames frames' : List Frame} {due due' : Due} {t : Token} (ts : List Token)
    (h : take frames due t = .inr (frames', due')) :
    build frames due (t :: ts) = build frames' due' ts := by
  rw [build, h]

theorem takeNext_eq_takeValue {frames : List Frame} {t : Token} (h : t ≠ .closeList) :
    takeNext frames t = takeValue frames t := by
  unfold takeNext
  split
  · exact absurd rfl h
  · rfl

theorem take_firstItem {frames : List Frame} {t : Token} (h : t ≠ .closeList) :
    take frames .firstItem t = take (.item [] :: frames) .value t := by
  cases t with
  | closeList => exact absurd rfl h
  | _ => rfl

theorem Value.tokens_head (v : Value) : ∃ t ts, v.tokens = t :: ts ∧ t ≠ .closeList := by
  cases v with
  | list items => exact ⟨_, _, rfl, nofun⟩
  | object members => exact ⟨_, _, rfl, nofun⟩
  | _ => exact ⟨_, _, rfl, nofun⟩

theorem build_firstItem (v : Value) (frames : List Frame) (ts : List Token) :
    build frames .firstItem (v.tokens ++ ts) =
      build (.item [] :: frames) .value (v.tokens ++ ts) := by
  obtain ⟨t, us, h, ht⟩ := v.tokens_head
  rw [h, List.cons_append, build, build, take_firstItem ht]

theorem itemTokens_cons (v : Value) (vs : List Value) :
    ∃ us, itemTokens (v :: vs) = v.tokens ++ us := by
  cases vs with
  | nil => exact ⟨[], (List.append_nil _).symm⟩
  | cons w vs => exact ⟨_, rfl⟩

theorem build_key (frames : List Frame) (before : List (Key × Node)) (key : String)
    (ts : List Token) :
    build frames (.key before) (.text ⟨.ok key, none⟩ :: .colon :: ts) =
      build (.member before (.ok key) :: frames) .value ts := by
  cases before with
  | nil => rfl
  | cons m ms => rfl

mutual

theorem build_value : ∀ (v : Value) (frames : List Frame) (ts : List Token),
    build frames .value (v.tokens ++ ts) = build frames (.separator v.tree) ts
  | .null, frames, ts => build_goesOn ts (takeNext_eq_takeValue nofun)
  | .boolean _, frames, ts => build_goesOn ts (takeNext_eq_takeValue nofun)
  | .integer _, frames, ts => build_goesOn ts (takeNext_eq_takeValue nofun)
  | .text _, frames, ts => build_goesOn ts (takeNext_eq_takeValue nofun)
  | .list [], frames, ts => by
    have first : build frames .value ((Value.list []).tokens ++ ts) =
        build frames .firstItem (.closeList :: ts) :=
      build_goesOn _ (takeNext_eq_takeValue nofun)
    rw [first]
    rfl
  | .list (v :: vs), frames, ts => by
    have first : build frames .value ((Value.list (v :: vs)).tokens ++ ts) =
        build frames .firstItem (itemTokens (v :: vs) ++ .closeList :: ts) := by
      rw [Value.tokens, List.append_assoc]
      exact build_goesOn _ (takeNext_eq_takeValue nofun)
    obtain ⟨us, hu⟩ := itemTokens_cons v vs
    rw [first, hu, List.append_assoc, build_firstItem, ← List.append_assoc, ← hu,
      build_items (v :: vs) nofun [] frames ts]
    rfl
  | .object [], frames, ts => by
    have first : build frames .value ((Value.object []).tokens ++ ts) =
        build frames (.key []) (.closeObject :: ts) :=
      build_goesOn _ (takeNext_eq_takeValue nofun)
    rw [first]
    rfl
  | .object (m :: ms), frames, ts => by
    have first : build frames .value ((Value.object (m :: ms)).tokens ++ ts) =
        build frames (.key []) (memberTokens (m :: ms) ++ .closeObject :: ts) := by
      rw [Value.tokens, List.append_assoc]
      exact build_goesOn _ (takeNext_eq_takeValue nofun)
    rw [first, build_members (m :: ms) nofun [] frames ts]
    rfl

theorem build_items : ∀ (items : List Value), items ≠ [] →
    ∀ (before : List Node) (frames : List Frame) (ts : List Token),
      build (.item before :: frames) .value (itemTokens items ++ .closeList :: ts) =
        build frames (.separator (.list (.after before (itemTree items)))) ts
  | [], h, _, _, _ => absurd rfl h
  | [v], _, before, frames, ts => by
    rw [itemTokens, build_value v]
    rfl
  | v :: w :: vs, _, before, frames, ts => by
    have eq : itemTokens (v :: w :: vs) = v.tokens ++ .comma :: itemTokens (w :: vs) := rfl
    rw [eq, List.append_assoc, build_value v]
    exact build_items (w :: vs) nofun (v.tree :: before) frames ts

theorem build_members : ∀ (members : List (String × Value)), members ≠ [] →
    ∀ (before : List (Key × Node)) (frames : List Frame) (ts : List Token),
      build frames (.key before) (memberTokens members ++ .closeObject :: ts) =
        build frames (.separator (.object (.after before (memberTree members)))) ts
  | [], h, _, _, _ => absurd rfl h
  | [(key, v)], _, before, frames, ts => by
    rw [memberTokens, List.cons_append, List.cons_append, build_key, build_value v]
    rfl
  | (key, v) :: m :: ms, _, before, frames, ts => by
    have eq : memberTokens ((key, v) :: m :: ms) =
        .text ⟨.ok key, none⟩ :: .colon :: (v.tokens ++ .comma :: memberTokens (m :: ms)) := rfl
    rw [eq, List.cons_append, List.cons_append, build_key, List.append_assoc, build_value v]
    exact build_members (m :: ms) nofun ((.ok key, v.tree) :: before) frames ts

end

theorem parse_render (v : Value) (hv : v.Fits) : parse v.render = ⟨v.tree, false⟩ := by
  have h := build_value v [] []
  rw [List.append_nil] at h
  rw [parse, tokens_render v hv, h]
  rfl

end HttpBridge.Json
