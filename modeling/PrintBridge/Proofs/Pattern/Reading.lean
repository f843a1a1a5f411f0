import PrintBridge.Pattern.Grammar
import PrintBridge.Proofs.Results

/-!
# Reading

What the reader of patterns gives, for every text that it reads.

A pattern that is read is in order. No range in a class ends before it begins, and no
repetition asks for less at most than at least, or for more than may be counted. The
reader refuses what is not so where it stands, so nothing that looks at a pattern later
has to.

A pattern is read part by part, with the groups and the classes that are not closed yet
around what is read. So what is in order is first of all what has been read so far, and
one more part keeps it in order: `Brackets.step_ordered` for a class, and
`Progress.step_ordered` for a pattern. The readers of the parts are put together from
smaller ones, and `Reader.Yields` says of each what it can give. It goes through the
ways in which readers are put together.

How deep a pattern may be is looked at when it has been read. What is too deep is found
if there is something, as `Tree.tooDeep?_eq_none_iff` says, with a depth that is
counted from the tree alone.

## Main definitions

* `ClassTree.Ordered`, `Tree.Ordered`: What is in order.
* `Reader.Yields`: What a reader can give.
* `Brackets.Ordered`, `Progress.Ordered`: What is in order as far as it has been read.
* `ClassTree.depth`, `Tree.depth`: How many levels stand in each other.

## Theorems

* `Reader.Yields.loop`: What each step of a loop keeps.
* `Brackets.step_ordered`, `Bracket.read_ordered`: Classes are read in order.
* `Reader.counted_ordered`: Numbers of repetitions are.
* `Progress.step_ordered`, `Progress.read_ordered`: Patterns are.
* `Tree.tooDeep?_eq_none_iff`: What is too deep is found.
* `Tree.ordered_of_read`: A pattern that is read is in order, and not too deep.
-/

namespace PrintBridge

namespace Pattern

/-- A class whose ranges do not end before they begin. -/
inductive ClassTree.Ordered : ClassTree → Prop where
  | nothing (span : Span) : Ordered (.nothing span)
  | literal (l : Literal) : Ordered (.literal l)
  | range (span : Span) {first last : Literal} (hle : first.char ≤ last.char) :
      Ordered (.range span first last)
  | ascii (span : Span) (negated : Bool) (members : AsciiClass) :
      Ordered (.ascii span negated members)
  | letter (span : Span) (negated : Bool) (members : LetterClass) :
      Ordered (.letter span negated members)
  | property (span : Span) (negated : Bool) (name : String) : Ordered (.property span negated name)
  | bracketed (span : Span) (negated : Bool) {body : ClassTree} (hbody : Ordered body) :
      Ordered (.bracketed span negated body)
  | union (span : Span) {items : List ClassTree} (hitems : ∀ item ∈ items, Ordered item) :
      Ordered (.union span items)
  | combined (span : Span) (op : SetOperation) {left right : ClassTree} (hleft : Ordered left)
      (hright : Ordered right) : Ordered (.combined span op left right)

/-- A pattern whose ranges do not end before they begin, and in which no repetition asks for
    less at most than at least, or for too many. -/
inductive Tree.Ordered : Tree → Prop where
  | empty (span : Span) : Ordered (.empty span)
  | switch (span : Span) (switches : Switches) : Ordered (.switch span switches)
  | literal (l : Literal) : Ordered (.literal l)
  | dot (span : Span) : Ordered (.dot span)
  | assertion (span : Span) (a : Assertion) : Ordered (.assertion span a)
  | letter (span : Span) (negated : Bool) (members : LetterClass) :
      Ordered (.letter span negated members)
  | property (span : Span) (negated : Bool) (name : String) : Ordered (.property span negated name)
  | bracketed (span : Span) (negated : Bool) {body : ClassTree} (hbody : body.Ordered) :
      Ordered (.bracketed span negated body)
  | repeated (span : Span) {least : Nat} {most : Option Nat} {body : Tree}
      (hleast : least ≤ countMax) (hmost : ∀ m ∈ most, least ≤ m ∧ m ≤ countMax)
      (hbody : Ordered body) : Ordered (.repeated span least most body)
  | group (span : Span) (remembered : Bool) (switches : Switches) {body : Tree}
      (hbody : Ordered body) : Ordered (.group span remembered switches body)
  | either (span : Span) {branches : List Tree} (hbranches : ∀ t ∈ branches, Ordered t) :
      Ordered (.either span branches)
  | sequence (span : Span) {items : List Tree} (hitems : ∀ t ∈ items, Ordered t) :
      Ordered (.sequence span items)

namespace Reader

variable {α β σ : Type} {p : α → Prop} {q : β → Prop}

/-- What a reader can give. -/
def Yields (x : Reader α) (p : α → Prop) : Prop := ∀ c r, x.run c = .ok r → p r.1

namespace Yields

theorem any (x : Reader α) : x.Yields fun _ => True := fun _ _ _ => trivial

theorem pure {a : α} (h : p a) : (Pure.pure a : Reader α).Yields p := by
  intro c r hr
  exact Except.ok.inj hr ▸ h

theorem bind {x : Reader α} {f : α → Reader β} (hx : x.Yields p)
    (hf : ∀ a, p a → (f a).Yields q) : (x >>= f).Yields q := by
  intro c r hr
  rcases bind_eq_ok_iff.1 hr with ⟨read, hread, hrest⟩
  exact hf read.1 (hx c read hread) read.2 r hrest

/-- What comes behind something of which nothing is known. -/
theorem behind {x : Reader α} {f : α → Reader β} (hf : ∀ a, (f a).Yields q) : (x >>= f).Yields q :=
  bind (any x) fun a _ => hf a

theorem complain (complaint : Complaint) : (Reader.complain complaint : Reader α).Yields p :=
  fun _ _ h => absurd h (by simp only [Reader.complain, reduceCtorEq, not_false_eq_true])

theorem fail (fault : Fault) (span : Span) : (Reader.fail fault span : Reader α).Yields p :=
  complain _

theorem failFrom (start : Place) (fault : Fault) :
    (Reader.failFrom start fault : Reader α).Yields p := behind fun _ => fail _ _

theorem failNext (fault : Fault) : (Reader.failNext fault : Reader α).Yields p :=
  behind fun _ => fail _ _

/-- A loop goes on with what is as it should be. -/
theorem next {inv : σ → Prop} {s : σ} (h : inv s) :
    (Pure.pure (some s) : Reader (Option σ)).Yields fun next => ∀ s' ∈ next, inv s' :=
  pure fun _ hs => Option.some.inj hs ▸ h

/-- A loop that ends goes on with nothing. -/
theorem last {inv : σ → Prop} :
    (Pure.pure none : Reader (Option σ)).Yields fun next => ∀ s' ∈ next, inv s' :=
  pure fun _ hs => absurd hs (Option.not_mem_none _)

/-- What holds of the state of a loop before each step holds of it in the end. -/
theorem loop {step : σ → Reader (Option σ)} {inv : σ → Prop}
    (hstep : ∀ s, inv s → (step s).Yields fun next => ∀ s' ∈ next, inv s') {s : σ} (h : inv s) :
    (Reader.loop step s).Yields inv := by
  intro c r hr
  change loopFrom step s c = .ok r at hr
  fun_induction loopFrom step s c with
  | case1 => exact absurd hr (by simp only [reduceCtorEq, not_false_eq_true])
  | case2 s c c' hrun => exact Except.ok.inj hr ▸ h
  | case3 s c s' c' hrun hlt ih => exact ih (hstep s h c _ hrun s' rfl) hr
  | case4 s c s' c' hrun hlt =>
      -- A step that reads nothing is the last one, and what it gave is kept.
      exact Except.ok.inj hr ▸ hstep s h c _ hrun s' rfl

end Yields

end Reader

section Classes

/-- A class that is in order as far as it has been read. -/
structure Bracket.Ordered (b : Bracket) : Prop where
  waiting : ∀ left ∈ b.waiting, left.2.Ordered
  items : ∀ item ∈ b.items, item.Ordered

namespace Bracket.Ordered

variable {b : Bracket} {item : ClassTree}

theorem push (h : b.Ordered) (hitem : item.Ordered) : (b.push item).Ordered :=
  ⟨h.waiting, List.forall_mem_cons.2 ⟨hitem, h.items⟩⟩

theorem side (h : b.Ordered) : b.side.Ordered := by
  rw [Bracket.side]
  split
  · exact .nothing _
  · rename_i item hone
    exact h.items item (hone ▸ List.mem_singleton_self item)
  · exact .union _ fun item hitem => h.items item (List.mem_reverse.1 hitem)

theorem body (h : b.Ordered) : b.body.Ordered := by
  rw [Bracket.body]
  split
  · exact h.side
  · rename_i op left hwaiting
    exact .combined _ op (h.waiting (op, left) hwaiting) h.side

theorem operate (h : b.Ordered) (op : SetOperation) (here : Place) :
    (b.operate op here).Ordered := by
  refine ⟨?_, fun _ hitem => absurd hitem List.not_mem_nil⟩
  rintro left hleft
  exact Option.some.inj hleft ▸ h.body

end Bracket.Ordered

/-- Classes in each other that are in order as far as they have been read. -/
structure Brackets.Ordered (bs : Brackets) : Prop where
  inner : bs.inner.Ordered
  outer : ∀ b ∈ bs.outer, b.Ordered
  closed : ∀ t ∈ bs.closed, t.Ordered

namespace Reader

theorem openingItem_ordered {b : Bracket} (h : b.Ordered) (c : Char) (fault : Complaint) :
    (openingItem b c fault).Yields Bracket.Ordered := by
  unfold openingItem
  refine .behind fun _ => .behind fun more => ?_
  split
  · exact .pure (h.push (.literal _))
  · exact .complain _

theorem openingItems_ordered {b : Bracket} (h : b.Ordered) (start : Place) :
    (openingItems start b).Yields Bracket.Ordered := by
  unfold openingItems
  refine .bind (.loop (fun b hb => ?_) h) fun dashed hdashed => .behind fun next => ?_
  · refine .behind fun next => ?_
    split
    · exact .bind (openingItem_ordered hb _ _) fun b' hb' => .next hb'
    · exact .last
  · split
    · exact .behind fun c => openingItem_ordered hdashed _ _
    · exact .pure hdashed

theorem bracketOpening_ordered : bracketOpening.Yields Bracket.Ordered := by
  unfold bracketOpening
  refine .behind fun start => .behind fun _ => .behind fun negated => .behind fun begin => ?_
  refine .bind (openingItems_ordered ⟨?_, ?_⟩ start) fun b hb =>
    .behind fun stop => .pure ⟨hb.waiting, hb.items⟩
  · exact fun _ h => absurd h (Option.not_mem_none _)
  · exact fun _ h => absurd h List.not_mem_nil

theorem classItem_ordered (a : Atom) : (classItem a).Yields ClassTree.Ordered := by
  unfold classItem
  split
  · exact .pure (.literal _)
  · exact .pure (.letter _ _ _)
  · exact .pure (.property _ _ _)
  · exact .fail _ _

theorem classRange_ordered (opening : Span) : (classRange opening).Yields ClassTree.Ordered := by
  unfold classRange
  refine .behind fun first => .behind fun _ => .behind fun next => ?_
  split
  · exact .fail _ _
  · split
    · refine .behind fun more => ?_
      split
      · refine .behind fun last => .behind fun low => .behind fun high => ?_
        split
        · rename_i hle
          exact .pure (.range _ hle)
        · exact .fail _ _
      · exact .fail _ _
    · exact classItem_ordered first

end Reader

namespace Brackets

variable {bs : Brackets}

theorem Ordered.push (h : bs.Ordered) {item : ClassTree} (hitem : item.Ordered) :
    (bs.push item).Ordered := ⟨h.inner.push hitem, h.outer, h.closed⟩

theorem Ordered.close (h : bs.Ordered) (stop : Place) : (bs.close stop).Ordered := by
  unfold Brackets.close
  split
  · refine ⟨h.inner, h.outer, ?_⟩
    rintro t ht
    exact Option.some.inj ht ▸ .bracketed _ _ h.inner.body
  · rename_i around outer houter
    have hall := List.forall_mem_cons.1 (houter ▸ h.outer)
    exact ⟨hall.1.push (.bracketed _ _ h.inner.body), hall.2, h.closed⟩

/-- One more part of a class keeps it in order. -/
theorem step_ordered (h : bs.Ordered) :
    (step bs).Yields fun next => ∀ bs' ∈ next, bs'.Ordered := by
  unfold step
  split
  · exact .last
  · refine .behind fun _ => .behind fun cursor => ?_
    split
    · exact .last
    · split
      · exact .behind fun _ => .behind fun stop => .next (h.push (.ascii _ _ _))
      · refine .bind Reader.bracketOpening_ordered fun b hb => .next ⟨hb, ?_, h.closed⟩
        exact List.forall_mem_cons.2 ⟨h.inner, h.outer⟩
    · exact .behind fun _ => .behind fun stop => .next (h.close stop)
    · split
      · exact .behind fun _ => .behind fun here =>
          .next ⟨h.inner.operate _ here, h.outer, h.closed⟩
      · exact .bind (Reader.classRange_ordered _) fun item hitem => .next (h.push hitem)

end Brackets

theorem Bracket.read_ordered : Bracket.read.Yields Tree.Ordered := by
  unfold Bracket.read
  refine .bind Reader.bracketOpening_ordered fun b hb => ?_
  refine .bind (.loop (fun bs hbs => Brackets.step_ordered hbs) ?_) fun read hread => ?_
  · exact ⟨hb, fun _ h => absurd h List.not_mem_nil, fun _ h => absurd h (Option.not_mem_none _)⟩
  · split
    · rename_i tree hclosed
      exact .pure (hread.closed tree hclosed)
    · exact .fail _ _

end Classes

/-- A group that is in order as far as it has been read. -/
structure Level.Ordered (l : Level) : Prop where
  branches : ∀ t ∈ l.branches, t.Ordered
  items : ∀ t ∈ l.items, t.Ordered

namespace Level.Ordered

variable {l : Level} {item : Tree}

theorem begin (here : Place) : (Level.begin here).Ordered :=
  ⟨fun _ h => absurd h List.not_mem_nil, fun _ h => absurd h List.not_mem_nil⟩

theorem push (h : l.Ordered) (hitem : item.Ordered) : (l.push item).Ordered :=
  ⟨h.branches, List.forall_mem_cons.2 ⟨hitem, h.items⟩⟩

theorem lastBranch (h : l.Ordered) (stop : Place) : (l.lastBranch stop).Ordered := by
  rw [Level.lastBranch]
  split
  · exact .empty _
  · rename_i item hone
    exact h.items item (hone ▸ List.mem_singleton_self item)
  · exact .sequence _ fun t ht => h.items t (List.mem_reverse.1 ht)

theorem bar (h : l.Ordered) (stop next : Place) : (l.bar stop next).Ordered :=
  ⟨List.forall_mem_cons.2 ⟨h.lastBranch stop, h.branches⟩, fun _ h => absurd h List.not_mem_nil⟩

theorem close (h : l.Ordered) (stop : Place) : (l.close stop).Ordered := by
  rw [Level.close]
  split
  · exact h.lastBranch stop
  · refine .either _ fun t ht => ?_
    rcases List.mem_cons.1 (List.mem_reverse.1 ht) with rfl | ht
    · exact h.lastBranch stop
    · exact h.branches t ht

end Level.Ordered

/-- A pattern that is in order as far as it has been read. -/
structure Progress.Ordered (p : Progress) : Prop where
  level : p.level.Ordered
  around : ∀ g ∈ p.opened, g.around.Ordered

theorem Atom.tree_ordered (a : Atom) : a.tree.Ordered := by
  cases a with
  | literal l => exact .literal l
  | dot span => exact .dot span
  | assertion span a => exact .assertion span a
  | letter span negated members => exact .letter span negated members
  | property span negated name => exact .property span negated name

namespace Reader

variable {p : Progress}

theorem parenthesis_ordered (h : p.Ordered) : (parenthesis p).Yields Progress.Ordered := by
  unfold parenthesis
  refine .behind fun before => .behind fun _ => .behind fun _ => .behind fun inside => ?_
  extract_lets enter
  -- Nothing has been read in a group that is entered, and what is around it waits.
  have henter : ∀ remembered switches names,
      (enter remembered switches names).Yields Progress.Ordered := by
    intro remembered switches names
    refine .behind fun _ => .behind fun here => .pure ⟨.begin here, ?_⟩
    exact List.forall_mem_cons.2 ⟨h.level, h.around⟩
  refine .behind fun lookAround => ?_
  split
  · exact .failFrom _ _
  · refine .behind fun named => ?_
    split
    · exact .behind fun name => henter _ _ _
    · refine .behind fun flagged => ?_
      split
      · refine .behind fun next => ?_
        split
        · exact .fail _ _
        · refine .behind fun read => .behind fun last => .behind fun _ => ?_
          split
          · split
            · exact .fail _ _
            · exact .behind fun _ => .behind fun stop =>
                .pure ⟨h.level.push (.switch _ _), h.around⟩
          · exact henter _ _ _
      · exact henter _ _ _

theorem closing_ordered (h : p.Ordered) : (closing p).Yields Progress.Ordered := by
  unfold closing
  split
  · exact .failNext _
  · rename_i group opened hopened
    refine .behind fun _ => .behind fun stop => .behind fun _ => .behind fun last => .pure ?_
    have haround := List.forall_mem_cons.1 (hopened ▸ h.around)
    exact ⟨haround.1.push (.group _ _ _ (h.level.close stop)), haround.2⟩

theorem operand_ordered {l : Level} (h : l.Ordered) :
    (operand l).Yields fun r => r.1.Ordered ∧ ∀ t ∈ r.2, t.Ordered := by
  unfold operand
  split
  · exact .behind fun _ => .failFrom _ _
  · exact .behind fun _ => .failFrom _ _
  · rename_i item rest _ hitems
    exact .pure (List.forall_mem_cons.1 (hitems ▸ h.items))

theorem repetition_ordered (h : p.Ordered) {least : Nat} {most : Option Nat}
    (hleast : least ≤ countMax) (hmost : ∀ m ∈ most, least ≤ m ∧ m ≤ countMax) :
    (repetition p least most).Yields Progress.Ordered := by
  unfold repetition
  refine .bind (operand_ordered h.level) fun operand hoperand => ?_
  refine .behind fun _ => .behind fun _ => .behind fun stop => .pure ⟨⟨h.level.branches, ?_⟩, ?_⟩
  · exact List.forall_mem_cons.2 ⟨.repeated _ hleast hmost hoperand.1, hoperand.2⟩
  · exact h.around

/-- A count is not too large, once it is known to be one. -/
theorem count_le : count.Yields fun read => ∀ n, read = .ok n → n ≤ countMax := by
  unfold count
  extract_lets
  refine .behind fun _ => .behind fun start => .behind fun digits => .behind fun stop => ?_
  refine .behind fun _ => ?_
  extract_lets
  split
  · exact .pure fun n hn => absurd hn (by simp only [reduceCtorEq, not_false_eq_true])
  · split
    · exact .pure fun n hn => absurd hn (by simp only [reduceCtorEq, not_false_eq_true])
    · rename_i hle
      exact .pure fun n hn => Except.ok.inj hn ▸ Nat.le_of_not_lt hle

theorem settled_le {read : Except Complaint Nat} (h : ∀ n, read = .ok n → n ≤ countMax) :
    (settled read).Yields (· ≤ countMax) := by
  unfold settled
  split
  · exact .pure (h _ rfl)
  · exact .complain _

theorem counts_le (start : Place) :
    (counts start).Yields fun r => r.1 ≤ countMax ∧ ∀ m ∈ r.2, m ≤ countMax := by
  unfold counts
  refine .bind count_le fun first hfirst => .behind fun next => ?_
  split
  · exact .failFrom _ _
  · refine .behind fun _ => .behind fun last => ?_
    split
    · refine .bind (settled_le hfirst) fun least hleast => .pure ⟨hleast, ?_⟩
      exact fun _ hm => absurd hm (Option.not_mem_none _)
    · refine .bind (settled_le hfirst) fun least hleast => .bind count_le fun second hsecond => ?_
      refine .bind (settled_le hsecond) fun most hmost => .pure ⟨hleast, ?_⟩
      exact fun _ hm => Option.some.inj hm ▸ hmost
  · refine .bind (settled_le hfirst) fun least hleast => .pure ⟨hleast, ?_⟩
    exact fun _ hm => Option.some.inj hm ▸ hleast

theorem counted_ordered (h : p.Ordered) : (counted p).Yields Progress.Ordered := by
  unfold counted
  refine .behind fun start => .bind (operand_ordered h.level) fun operand hoperand => ?_
  refine .behind fun _ => .bind (counts_le start) fun counts hcounts => .behind fun last => ?_
  split
  · refine .behind fun _ => .behind fun _ => .behind fun stop => ?_
    split
    · -- Both counts are small, and here they are compared.
      rename_i horder
      have hmost : ∀ m ∈ counts.2, counts.1 ≤ m ∧ m ≤ countMax := fun m hm =>
        ⟨of_decide_eq_true ((Option.all_eq_true _ _).1 horder m hm), hcounts.2 m hm⟩
      refine .pure ⟨⟨h.level.branches, ?_⟩, h.around⟩
      exact List.forall_mem_cons.2 ⟨.repeated _ hcounts.1 hmost hoperand.1, hoperand.2⟩
    · exact .fail _ _
  · exact .failFrom _ _

end Reader

namespace Progress

variable {p : Progress}

/-- One more part of a pattern keeps it in order. -/
theorem step_ordered (h : p.Ordered) : (step p).Yields fun next => ∀ p' ∈ next, p'.Ordered := by
  have hitem : ∀ item : Tree, item.Ordered →
      Progress.Ordered { p with level := p.level.push item } :=
    fun item hitem => ⟨h.level.push hitem, h.around⟩
  have hone : ∀ m ∈ some 1, 0 ≤ m ∧ m ≤ countMax := by
    rintro m hm
    exact Option.some.inj hm ▸ ⟨by decide, by decide⟩
  have hany : ∀ (least : Nat), ∀ m ∈ (none : Option Nat), least ≤ m ∧ m ≤ countMax :=
    fun _ _ hm => absurd hm (Option.not_mem_none _)
  unfold step
  refine .behind fun _ => .behind fun next => ?_
  split
  · exact .last
  · exact .bind (Reader.parenthesis_ordered h) fun p' hp' => .next hp'
  · exact .bind (Reader.closing_ordered h) fun p' hp' => .next hp'
  · exact .behind fun stop => .behind fun _ => .behind fun next =>
      .next ⟨h.level.bar stop next, h.around⟩
  · exact .bind Bracket.read_ordered fun item hi => .next (hitem item hi)
  · exact .bind (Reader.repetition_ordered h (by decide) hone) fun p' hp' => .next hp'
  · exact .bind (Reader.repetition_ordered h (by decide) (hany 0)) fun p' hp' => .next hp'
  · exact .bind (Reader.repetition_ordered h (by decide) (hany 1)) fun p' hp' => .next hp'
  · exact .bind (Reader.counted_ordered h) fun p' hp' => .next hp'
  · exact .behind fun a => .next (hitem _ a.tree_ordered)

theorem read_ordered : read.Yields Tree.Ordered := by
  have hbegin : Progress.Ordered ⟨.begin .start, [], []⟩ :=
    ⟨.begin _, fun _ h => absurd h List.not_mem_nil⟩
  unfold read
  refine .bind (.loop (fun p hp => step_ordered hp) hbegin) fun p hp => ?_
  unfold finish
  split
  · exact .behind fun stop => .pure (hp.level.close stop)
  · exact .fail _ _

end Progress

section Depth

namespace ClassTree

mutual

/-- How many levels of a class stand in each other. -/
def depth : ClassTree → Nat
  | bracketed _ _ body => depth body + 1
  | union _ items => depths items + 1
  | combined _ _ left right => max (depth left) (depth right) + 1
  | _ => 0

/-- How many levels at most stand in each other in several. -/
def depths : List ClassTree → Nat
  | [] => 0
  | item :: rest => max (depth item) (depths rest)

end

mutual

theorem tooDeep?_eq_none_iff (n : Nat) (t : ClassTree) : tooDeep? n t = none ↔ depth t ≤ n := by
  cases t with
  | bracketed s negated body =>
      cases n with
      | zero => simp only [tooDeep?, depth, reduceCtorEq, false_iff]; omega
      | succ n => rw [tooDeep?, tooDeep?_eq_none_iff n body, depth, Nat.succ_le_succ_iff]
  | union s items =>
      cases n with
      | zero => simp only [tooDeep?, depth, reduceCtorEq, false_iff]; omega
      | succ n => rw [tooDeep?, anyTooDeep?_eq_none_iff n items, depth, Nat.succ_le_succ_iff]
  | combined s op left right =>
      cases n with
      | zero => simp only [tooDeep?, depth, reduceCtorEq, false_iff]; omega
      | succ n =>
          rw [tooDeep?, Option.or_eq_none_iff, tooDeep?_eq_none_iff n left,
            tooDeep?_eq_none_iff n right, depth, Nat.succ_le_succ_iff, Nat.max_le]
  | _ => cases n <;> simp only [tooDeep?, depth, Nat.zero_le]

theorem anyTooDeep?_eq_none_iff (n : Nat) (ts : List ClassTree) :
    anyTooDeep? n ts = none ↔ depths ts ≤ n := by
  cases ts with
  | nil => simp only [anyTooDeep?, depths, Nat.zero_le]
  | cons item rest =>
      rw [anyTooDeep?, Option.or_eq_none_iff, tooDeep?_eq_none_iff n item,
        anyTooDeep?_eq_none_iff n rest, depths, Nat.max_le]

end

end ClassTree

namespace Tree

mutual

/-- How many levels of a pattern stand in each other. -/
def depth : Tree → Nat
  | bracketed _ _ body => body.depth + 1
  | repeated _ _ _ body => depth body + 1
  | group _ _ _ body => depth body + 1
  | either _ branches => depths branches + 1
  | sequence _ items => depths items + 1
  | _ => 0

/-- How many levels at most stand in each other in several. -/
def depths : List Tree → Nat
  | [] => 0
  | item :: rest => max (depth item) (depths rest)

end

mutual

/-- What is too deep is found exactly if there is something. -/
theorem tooDeep?_eq_none_iff (n : Nat) (t : Tree) : tooDeep? n t = none ↔ depth t ≤ n := by
  cases t with
  | bracketed s negated body =>
      cases n with
      | zero => simp only [tooDeep?, depth, reduceCtorEq, false_iff]; omega
      | succ n =>
          rw [tooDeep?, ClassTree.tooDeep?_eq_none_iff n body, depth, Nat.succ_le_succ_iff]
  | repeated s least most body =>
      cases n with
      | zero => simp only [tooDeep?, depth, reduceCtorEq, false_iff]; omega
      | succ n => rw [tooDeep?, tooDeep?_eq_none_iff n body, depth, Nat.succ_le_succ_iff]
  | group s remembered switches body =>
      cases n with
      | zero => simp only [tooDeep?, depth, reduceCtorEq, false_iff]; omega
      | succ n => rw [tooDeep?, tooDeep?_eq_none_iff n body, depth, Nat.succ_le_succ_iff]
  | either s branches =>
      cases n with
      | zero => simp only [tooDeep?, depth, reduceCtorEq, false_iff]; omega
      | succ n => rw [tooDeep?, anyTooDeep?_eq_none_iff n branches, depth, Nat.succ_le_succ_iff]
  | sequence s items =>
      cases n with
      | zero => simp only [tooDeep?, depth, reduceCtorEq, false_iff]; omega
      | succ n => rw [tooDeep?, anyTooDeep?_eq_none_iff n items, depth, Nat.succ_le_succ_iff]
  | _ => cases n <;> simp only [tooDeep?, depth, Nat.zero_le]

theorem anyTooDeep?_eq_none_iff (n : Nat) (ts : List Tree) :
    anyTooDeep? n ts = none ↔ depths ts ≤ n := by
  cases ts with
  | nil => simp only [anyTooDeep?, depths, Nat.zero_le]
  | cons item rest =>
      rw [anyTooDeep?, Option.or_eq_none_iff, tooDeep?_eq_none_iff n item,
        anyTooDeep?_eq_none_iff n rest, depths, Nat.max_le]

end

end Tree

end Depth

/-- A pattern that is read is in order, and no deeper than it may be. -/
theorem Tree.ordered_of_read {pattern : String} {t : Tree} (h : Tree.read pattern = .ok t) :
    t.Ordered ∧ t.depth ≤ depthLimit := by
  unfold Tree.read at h
  split at h
  · exact absurd h (by simp only [reduceCtorEq, not_false_eq_true])
  · rename_i tree rest hrun
    split at h
    · exact absurd h (by simp only [reduceCtorEq, not_false_eq_true])
    · rename_i hshallow
      obtain rfl : tree = t := Except.ok.inj h
      exact ⟨Progress.read_ordered _ _ hrun, (Tree.tooDeep?_eq_none_iff depthLimit tree).1 hshallow⟩

end Pattern

end PrintBridge
