import X3Hal.Memory.Numbers
import X3Hal.Transition.Justified

/-!
# Netlink attributes

A container of attributes is a range of a message.  Each attribute has a header of its length
and its type, its payload, and padding; `nla_ok` says whether another attribute lies within what
remains.
-/

namespace X3Hal.Wifi

open X3Hal.Memory X3Hal.Transition

structure Attribute where
  /-- where its header is in the message -/
  offset : Nat
  type : Nat
  /-- `nla_len`, the length of the payload -/
  len : Nat
  deriving DecidableEq

/-- `NLA_HDRLEN` -/
def nlaHdrLen : Nat := 4

/-- `NLA_ALIGN` -/
def nlaAlign (len : Nat) : Nat :=
  (len + 3) / 4 * 4

theorem le_nlaAlign (len : Nat) : len ≤ nlaAlign len := by
  rw [nlaAlign]
  omega

/-- Where the payload is. -/
def Attribute.data (nla : Attribute) : Nat :=
  nla.offset + nlaHdrLen

/-- The attributes of a range. -/
def attributes (message : List UInt8) : Nat → Nat → Nat → List Attribute
  | 0, _, _ => []
  | fuel + 1, rem, offset =>
      let len := numberAt message offset 2
      if rem < nlaHdrLen ∨ len < nlaHdrLen ∨ rem < len then []
      else
        ⟨offset, numberAt message (offset + 2) 2, len - nlaHdrLen⟩ ::
          attributes message fuel (rem - nlaAlign len) (offset + nlaAlign len)

section Loop

variable {σ : Type}

/-- The loop of an `nl_iterator`; the body says whether it goes on. -/
def forEach (message : List UInt8) (body : Attribute → σ → Option (Bool × σ)) :
    Nat → Nat → Nat → σ → Option σ
  | 0, _, _, state => some state
  | fuel + 1, rem, offset, state =>
      if rem < nlaHdrLen then some state
      else do
        let len ← number message offset 2
        if len < nlaHdrLen ∨ rem < len then some state
        else
          let type ← number message (offset + 2) 2
          let (more, state) ← body ⟨offset, type, len - nlaHdrLen⟩ state
          if more then forEach message body fuel (rem - nlaAlign len) (offset + nlaAlign len) state
          else some state

/-- The body for one attribute after the other. -/
def runAttributes (body : Attribute → σ → Option (Bool × σ)) : List Attribute → σ → Option σ
  | [], state => some state
  | nla :: attributes, state => do
      let (more, state) ← body nla state
      if more then runAttributes body attributes state else some state

/-- The loop reads no header outside of its range. -/
theorem forEach_eq (message : List UInt8) (body : Attribute → σ → Option (Bool × σ))
    {fuel rem offset : Nat} (enough : rem ≤ fuel) (inside : offset + rem ≤ message.length)
    (state : σ) :
    forEach message body fuel rem offset state =
      runAttributes body (attributes message fuel rem offset) state := by
  induction fuel generalizing rem offset state with
  | zero => rfl
  | succ fuel ih =>
      rw [forEach, attributes]
      by_cases short : rem < nlaHdrLen
      · rw [if_pos short, if_pos (Or.inl short)]
        rfl
      · have header : nlaHdrLen = 4 := rfl
        rw [if_neg short, number_eq (by omega), Option.bind_eq_bind, Option.bind_some]
        by_cases ends : numberAt message offset 2 < nlaHdrLen ∨ rem < numberAt message offset 2
        · rw [if_pos ends, if_pos (Or.inr ends)]
          rfl
        · rw [if_neg ends, if_neg (not_or.mpr ⟨short, ends⟩), number_eq (by omega),
            Option.bind_some, runAttributes, Option.bind_eq_bind]
          have advances := le_nlaAlign (numberAt message offset 2)
          congr 1
          funext ⟨more, state⟩
          cases more with
          | false => rfl
          | true =>
              dsimp only
              rw [if_pos rfl, if_pos rfl]
              by_cases within : nlaAlign (numberAt message offset 2) ≤ rem
              · exact ih (by omega) (by omega) state
              · -- the padding of the last attribute may lie outside
                have none : rem - nlaAlign (numberAt message offset 2) = 0 := by omega
                rw [none]
                cases fuel <;> rfl

/-- The attributes up to the first one that stops the loop. -/
def upTo (stops : Attribute → Bool) : List Attribute → List Attribute
  | [] => []
  | nla :: nlas => if stops nla then [nla] else nla :: upTo stops nlas

theorem mem_of_mem_upTo {stops : Attribute → Bool} {nlas : List Attribute} :
    ∀ nla ∈ upTo stops nlas, nla ∈ nlas := by
  induction nlas with
  | nil => nofun
  | cons first nlas ih =>
      intro nla occurs
      rw [upTo] at occurs
      split at occurs
      · rw [List.mem_singleton.mp occurs]
        exact List.mem_cons_self
      · rcases List.mem_cons.mp occurs with rfl | later
        · exact List.mem_cons_self
        · exact List.mem_cons_of_mem first (ih nla later)

theorem upTo_false (nlas : List Attribute) : upTo (fun _ => false) nlas = nlas := by
  induction nlas with
  | nil => rfl
  | cons nla nlas ih =>
      rw [upTo, if_neg Bool.false_ne_true, ih]

/-- A loop whose stops can be told from the attributes. -/
theorem runAttributes_eq {body : Attribute → σ → Option (Bool × σ)} (stops : Attribute → Bool)
    (more : ∀ nla state next, body nla state = some next → next.1 = !stops nla)
    (nlas : List Attribute) (state : σ) :
    runAttributes body nlas state =
      (upTo stops nlas).foldlM (fun state nla => (body nla state).map (·.2)) state := by
  induction nlas generalizing state with
  | nil => rfl
  | cons nla nlas ih =>
      rw [runAttributes, upTo]
      cases made : body nla state with
      | none => split <;> simp [made]
      | some next =>
          have goesOn := more nla state next made
          cases stopped : stops nla with
          | true => simp [made, goesOn, stopped]
          | false => simp [made, goesOn, stopped, ih]

/-- A loop of which each round is a loop itself. -/
theorem runAttributes_flatMap {ι : Type} {body : Attribute → σ → Option (Bool × σ)}
    {round : σ → ι → Option σ} {items : Attribute → List ι} {nlas : List Attribute}
    (bodyEq : ∀ nla ∈ nlas, ∀ state,
      body nla state = ((items nla).foldlM round state).map fun next => (true, next))
    (state : σ) :
    runAttributes body nlas state = (nlas.flatMap items).foldlM round state := by
  induction nlas generalizing state with
  | nil => rfl
  | cons nla nlas ih =>
      rw [runAttributes, List.flatMap_cons, List.foldlM_append,
        bodyEq nla List.mem_cons_self state]
      cases (items nla).foldlM round state with
      | none => rfl
      | some next => exact ih (fun nla later => bodyEq nla (List.mem_cons_of_mem _ later)) next

/-- The attributes lie within their range. -/
theorem attributes_within {message : List UInt8} {fuel rem offset : Nat} :
    ∀ nla ∈ attributes message fuel rem offset,
      nla.data + nla.len ≤ offset + rem := by
  induction fuel generalizing rem offset with
  | zero => nofun
  | succ fuel ih =>
      intro nla occurs
      rw [attributes] at occurs
      split at occurs
      · cases occurs
      case isFalse ok =>
        simp only [not_or, Nat.not_lt] at ok
        have header : nlaHdrLen = 4 := rfl
        rcases List.mem_cons.mp occurs with rfl | later
        · simp only [Attribute.data]
          omega
        · have within := ih nla later
          by_cases fits : nlaAlign (numberAt message offset 2) ≤ rem
          · omega
          · have none : rem - nlaAlign (numberAt message offset 2) = 0 := by omega
            rw [none] at later
            cases fuel with
            | zero => cases later
            | succ fuel =>
                rw [attributes, if_pos (Or.inl (by decide))] at later
                cases later

end Loop

end X3Hal.Wifi
