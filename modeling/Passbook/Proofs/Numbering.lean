import Mathlib.Data.List.Nodup
import Passbook.Proofs.Record

/-!
# Numbers

The numbers of a kind are drawn one after the other, and every number that is drawn becomes the
number of one row at most. As long as no sequence has come round to its start, no two rows that were
made in committed transactions have the same number (`nodup_numbers`).
-/

namespace Passbook.Store

-- ---------------------------------------------------------------------------
-- Sequences
-- ---------------------------------------------------------------------------

/-- The numbers of one kind, in order. -/
def ofKind (kind : RowKind) (numbers : List Number) : List Int64 :=
  numbers.filterMap fun n => if n.1 = kind then some n.2.value else none

theorem ofKind_cons (kind : RowKind) (n : Number) (rest : List Number) :
    ofKind kind (n :: rest) =
      if n.1 = kind then n.2.value :: ofKind kind rest else ofKind kind rest := by
  by_cases h : n.1 = kind <;> simp [ofKind, h]

theorem ofKind_append (kind : RowKind) (first rest : List Number) :
    ofKind kind (first ++ rest) = ofKind kind first ++ ofKind kind rest :=
  List.filterMap_append

theorem nodup_of_kinds {numbers : List Number} (h : ∀ kind, (ofKind kind numbers).Nodup) :
    numbers.Nodup := by
  induction numbers with
  | nil => exact .nil
  | cons n rest ih =>
    refine List.nodup_cons.mpr ⟨fun again => ?_, ih fun kind => ?_⟩
    · have head := h n.1
      rw [ofKind_cons, if_pos rfl] at head
      exact (List.nodup_cons.mp head).1 (List.mem_filterMap.mpr ⟨n, again, if_pos rfl⟩)
    · exact ((List.sublist_cons_self n rest).filterMap _).nodup (h kind)

def firstNumbers (count : Nat) : List Int64 := (List.range count).map fun i => .ofNat (i + 1)

@[simp] theorem firstNumbers_length (count : Nat) : (firstNumbers count).length = count := by
  simp [firstNumbers]

theorem firstNumbers_succ (count : Nat) :
    firstNumbers (count + 1) = firstNumbers count ++ [.ofNat (count + 1)] := by
  simp [firstNumbers, List.range_succ]

theorem ofNat_succ_inj {i j : Nat} (hi : i < Int64.size) (hj : j < Int64.size)
    (same : Int64.ofNat (i + 1) = Int64.ofNat (j + 1)) : i = j := by
  have words : BitVec.ofNat 64 (i + 1) = BitVec.ofNat 64 (j + 1) := congrArg Int64.toBitVec same
  have same := congrArg BitVec.toNat words
  rw [BitVec.toNat_ofNat, BitVec.toNat_ofNat] at same
  unfold Int64.size at hi hj
  omega

/-- The first numbers differ until the sequence has come round. -/
theorem nodup_firstNumbers (h : count ≤ Int64.size) : (firstNumbers count).Nodup := by
  refine List.nodup_range.map_on fun i hi j hj same => ?_
  have hi := List.mem_range.mp hi
  have hj := List.mem_range.mp hj
  exact ofNat_succ_inj (Nat.lt_of_lt_of_le hi h) (Nat.lt_of_lt_of_le hj h) same

/-- Numbers that are still to come are not among the first ones. -/
theorem notMem_firstNumbers {count i : Nat} (ahead : count ≤ i) (room : i < Int64.size) :
    Int64.ofNat (i + 1) ∉ firstNumbers count := by
  intro given
  obtain ⟨j, hj, same⟩ := List.mem_map.mp given
  have hj := Nat.lt_of_lt_of_le (List.mem_range.mp hj) ahead
  exact absurd (ofNat_succ_inj (Nat.lt_trans hj room) room same) (Nat.ne_of_lt hj)

/-- These numbers have been drawn, of every kind as many as its sequence has counted. -/
def Counted (seqs : Sequences) (numbers : List Number) : Prop :=
  ∀ kind, ∃ count, ofKind kind numbers = firstNumbers count ∧ seqs.last kind = .ofNat count

theorem drawnUntil_self (seqs : Sequences) : seqs.drawnUntil seqs = [] := by
  simp [Sequences.drawnUntil]

theorem drawnUntil_draw (seqs : Sequences) (kind : RowKind) :
    seqs.drawnUntil (seqs.draw kind).2 = [⟨kind, (seqs.draw kind).1⟩] := by
  cases kind <;> simp [Sequences.drawnUntil, Sequences.draw, Sequences.advance, Sequences.last]

theorem last_draw (seqs : Sequences) (kind other : RowKind) :
    (seqs.draw kind).2.last other =
      if kind = other then seqs.last kind + 1 else seqs.last other := by
  cases kind <;> cases other <;> rfl

theorem Counted.drew (c : Counted seqs numbers) (d : Plan.Drew seqs drawn seqs' drawn') :
    Counted seqs' (numbers ++ seqs.drawnUntil seqs') := by
  cases d with
  | nothing =>
    rw [drawnUntil_self, List.append_nil]
    exact c
  | number kind _ =>
    intro other
    obtain ⟨count, numbers, last⟩ := c other
    rw [drawnUntil_draw, ofKind_append, numbers, ofKind_cons, last_draw]
    by_cases h : kind = other
    · subst h
      have next : seqs.last kind + 1 = .ofNat (count + 1) := by rw [last, Int64.ofNat_add]; rfl
      refine ⟨count + 1, ?_, (if_pos rfl).trans next⟩
      have drawn : (seqs.draw kind).1.value = seqs.last kind + 1 :=
        (last_draw seqs kind kind).trans (if_pos rfl)
      rw [firstNumbers_succ, ← next, ← drawn, if_pos rfl]
      rfl
    · exact ⟨count, by rw [if_neg h]; exact List.append_nil _, (if_neg h).trans last⟩

-- ---------------------------------------------------------------------------
-- Moves
-- ---------------------------------------------------------------------------

def Deed.number? (d : Deed) : Option Number := d.query.number? d.row

/-- The numbers of the rows that some deeds have made. -/
def numbersOf (deeds : List Deed) : List Number := deeds.filterMap Deed.number?

theorem numbersOf_singleton (d : Deed) : numbersOf [d] = d.number?.toList := by
  cases h : d.number? <;> simp [numbersOf, h]

theorem numbersOf_append (first rest : List Deed) :
    numbersOf (first ++ rest) = numbersOf first ++ numbersOf rest := List.filterMap_append

def Mark.numbers : Mark → List Number
  | .did deed => numbersOf [deed]
  | _ => []

/-- What has been drawn for the query that is carried out. -/
def Stand.Drawn (a : Stand α) (drawn : Option Number) : Prop :=
  ∀ w, a.pending = some w → w.plan.Numbers w.query.number? drawn

variable {s s' : Store} {a b : Stand α} {mark : Mark}

theorem Stand.Drawn.of_none (h : a.pending = none) (drawn : Option Number) : a.Drawn drawn :=
  fun _ hw => nomatch h.symm.trans hw

/-- A move draws one number at most. What has been drawn before or is drawn now is the number of
the row that is made, or is kept for it, or is lost. -/
theorem Moved.drew (m : Moved s a mark s' b) (h : a.Drawn drawn) :
    ∃ more drawn', Plan.Drew s.sequences drawn s'.sequences more ∧ b.Drawn drawn' ∧
      (mark.numbers ++ drawn'.toList).Sublist more.toList := by
  cases m with
  | stays => exact ⟨drawn, drawn, .nothing, h, .refl _⟩
  | asked =>
    refine ⟨drawn, none, .nothing, fun w hw => ?_, List.nil_sublist _⟩
    obtain rfl := Option.some.inj hw
    exact Query.plan_numbers _
  | blocked walk =>
    obtain ⟨more, numbers, drew, -⟩ := (h _ rfl).walk walk
    refine ⟨more, more, drew, fun w hw => ?_, .refl _⟩
    obtain rfl := Option.some.inj hw
    exact numbers
  | locked walk =>
    obtain ⟨more, numbers, drew, -⟩ := (h _ rfl).walk walk
    refine ⟨more, more, drew, fun w hw => ?_, .refl _⟩
    obtain rfl := Option.some.inj hw
    exact numbers
  | granted =>
    have numbers := h _ rfl
    refine ⟨drawn, drawn, .nothing, fun w hw => ?_, .refl _⟩
    obtain rfl := Option.some.inj hw
    exact numbers
  | reached walk =>
    obtain ⟨more, numbers, drew, -⟩ := (h _ rfl).walk walk
    refine ⟨more, more, drew, fun w hw => ?_, .refl _⟩
    obtain rfl := Option.some.inj hw
    exact numbers
  | won | tried =>
    have numbers := h _ rfl
    refine ⟨drawn, drawn, .nothing, fun w hw => ?_, .refl _⟩
    obtain rfl := Option.some.inj hw
    exact numbers _
  | failed walk =>
    obtain ⟨more, -, drew, -⟩ := (h _ rfl).walk walk
    exact ⟨more, none, drew, .of_none rfl _, List.nil_sublist _⟩
  | did walk ends =>
    obtain ⟨more, numbers, drew, -⟩ := (h _ rfl).walk walk
    obtain rfl := ends.numbers numbers
    refine ⟨_, none, by rw [apply_sequences]; exact drew, .of_none rfl _, ?_⟩
    rw [Mark.numbers, Option.toList_none, List.append_nil, numbersOf_singleton]
    exact .refl _
  | published =>
    exact ⟨drawn, none, close_sequences s _ ▸ .nothing, .of_none rfl _, List.nil_sublist _⟩
  | broke =>
    exact ⟨drawn, none, close_sequences s _ ▸ .nothing, .of_none rfl _, List.nil_sublist _⟩
  | rolledBack =>
    exact ⟨drawn, none, close_sequences s _ ▸ .nothing, .of_none rfl _, List.nil_sublist _⟩
  | _ => exact ⟨drawn, none, .nothing, .of_none rfl _, List.nil_sublist _⟩

theorem drew_toList (d : Plan.Drew seqs drawn seqs' more) :
    more.toList = drawn.toList ++ seqs.drawnUntil seqs' := by
  cases d with
  | nothing => rw [drawnUntil_self, List.append_nil]
  | number kind none => rw [drawnUntil_draw, none]; rfl

/-- Where a transaction begins or ends, no query is carried out. -/
theorem Moved.pending_none (m : Moved s a mark s' b) (h : b.tx ≠ a.tx) : b.pending = none := by
  cases m <;> first | rfl | exact absurd rfl h

/-- Outside of a transaction nothing is drawn. -/
theorem Moved.sequences_same (m : Moved s a mark s' b) (h : a.tx = none) :
    s'.sequences = s.sequences := by
  cases m <;> first | rfl | exact nomatch h

-- ---------------------------------------------------------------------------
-- Systems
-- ---------------------------------------------------------------------------

namespace System

variable {Name : Type} [DecidableEq Name] {Result : Name → Type} {sys sys' : System Result}

def drawsOf (sys : System Result) (tx : TxId) : List Number :=
  (sys.draws.filter (·.1 = tx)).map (·.2)

/-- The numbers of the rows that a transaction has made are among those that it has drawn, in
order, and so is the number that has been drawn for the query that is carried out. -/
structure Numbered (sys : System Result) : Prop where
  counted : Counted sys.store.sequences (sys.draws.map (·.2))
  journals : ∀ tx, (numbersOf (sys.journals tx)).Sublist (sys.drawsOf tx)
  pending : ∀ name p, sys.tasks name = some p → ∀ tx, p.tx = some tx → ∃ drawn,
    p.stand.Drawn drawn ∧
      (numbersOf (sys.journals tx) ++ drawn.toList).Sublist (sys.drawsOf tx)

omit [DecidableEq Name] in
theorem Numbered.start (connections : Nat) (programs : (name : Name) → Program (Result name)) :
    (start connections programs).Numbered where
  counted kind := ⟨0, rfl, by cases kind <;> rfl⟩
  journals _ := .refl _
  pending name p hp := by
    obtain rfl := Option.some.inj hp
    exact fun _ htx => nomatch htx

theorem took_draws (sys : System Result) (name : Name) (p : Process (Result name)) :
    (sys.took name (some tx) mark s' p).draws =
      sys.draws ++ (sys.store.sequences.drawnUntil s'.sequences).map (tx, ·) := rfl

theorem took_numbers (sys : System Result) (name : Name) (p : Process (Result name)) :
    (sys.took name (some tx) mark s' p).draws.map (·.2) =
      sys.draws.map (·.2) ++ sys.store.sequences.drawnUntil s'.sequences := by
  rw [took_draws, List.map_append, List.map_map]
  exact congrArg _ (List.map_id _)

theorem took_drawsOf (sys : System Result) (name : Name) (p : Process (Result name)) :
    (sys.took name (some tx) mark s' p).drawsOf tx =
      sys.drawsOf tx ++ sys.store.sequences.drawnUntil s'.sequences := by
  have own : ((sys.store.sequences.drawnUntil s'.sequences).map (tx, ·)).filter (·.1 = tx) =
      (sys.store.sequences.drawnUntil s'.sequences).map (tx, ·) :=
    List.filter_eq_self.mpr fun d hd => by
      obtain ⟨n, -, rfl⟩ := List.mem_map.mp hd
      simp
  rw [drawsOf, took_draws, List.filter_append, own, List.map_append, List.map_map]
  congr 1
  exact List.map_id _

theorem took_drawsOf_other (sys : System Result) (name : Name) (p : Process (Result name))
    (h : tx? ≠ some other) :
    (sys.took name tx? mark s' p).drawsOf other = sys.drawsOf other := by
  cases tx? with
  | none => rfl
  | some tx =>
    have none : ((sys.store.sequences.drawnUntil s'.sequences).map (tx, ·)).filter (·.1 = other) =
        [] :=
      List.filter_eq_nil_iff.mpr fun d hd => by
        obtain ⟨n, -, rfl⟩ := List.mem_map.mp hd
        simpa using fun e => h (congrArg some e)
    rw [drawsOf, took_draws, List.filter_append, none, List.append_nil, drawsOf]

theorem numbersOf_took (sys : System Result) (name : Name) (p : Process (Result name)) :
    numbersOf ((sys.took name (some tx) mark s' p).journals tx) =
      numbersOf (sys.journals tx) ++ mark.numbers := by
  cases mark with
  | did deed => simp [took, numbersOf, Mark.numbers]
  | _ => exact (List.append_nil _).symm

theorem Numbered.took {name : Name} {p p' : Process (Result name)} (n : sys.Numbered)
    (task : sys.tasks name = some p) (htx : p.tx = some tx)
    (m : Moved sys.store p.stand mark next p'.stand) :
    Counted next.sequences ((sys.took name (some tx) mark next p').draws.map (·.2)) ∧
      ∃ drawn, p'.stand.Drawn drawn ∧
        (numbersOf ((sys.took name (some tx) mark next p').journals tx) ++ drawn.toList).Sublist
          ((sys.took name (some tx) mark next p').drawsOf tx) := by
  obtain ⟨drawn, before, drawnBefore⟩ := n.pending name p task tx htx
  obtain ⟨more, drawn', drew, after, kept⟩ := m.drew before
  constructor
  · rw [took_numbers]
    exact n.counted.drew drew
  · refine ⟨drawn', after, ?_⟩
    rw [numbersOf_took, took_drawsOf, List.append_assoc]
    calc (numbersOf (sys.journals tx) ++ (mark.numbers ++ drawn'.toList)).Sublist
          (numbersOf (sys.journals tx) ++ more.toList) := kept.append_left _
      _ = numbersOf (sys.journals tx) ++ drawn.toList ++
          sys.store.sequences.drawnUntil next.sequences := by
        rw [drew_toList drew, List.append_assoc]
      List.Sublist _ (sys.drawsOf tx ++ sys.store.sequences.drawnUntil next.sequences) :=
        drawnBefore.append_right _

theorem Numbered.happened (t : sys.Tidy) (n : sys.Numbered) (h : Happened sys sys') :
    sys'.Numbered := by
  cases h with
  | @moved mark next name p p' task m =>
    have journals : ∀ tx, (numbersOf ((sys.took name p.tx mark next p').journals tx)).Sublist
        ((sys.took name p.tx mark next p').drawsOf tx) := fun tx => by
      by_cases htx : p.tx = some tx
      · obtain ⟨-, drawn, -, sub⟩ := n.took task htx m
        rw [htx]
        exact (List.sublist_append_left ..).trans sub
      · rw [took_journals _ _ _ htx, took_drawsOf_other _ _ _ htx]
        exact n.journals tx
    refine ⟨?_, journals, forall_took (fun tx htx' => ?_) fun other q ne hq tx htx => ?_⟩
    · cases htx : p.tx with
      | none =>
        have same : next.sequences = sys.store.sequences := m.sequences_same htx
        exact same ▸ n.counted
      | some tx => exact (n.took task htx m).1
    · by_cases htx : p.tx = some tx
      · rw [htx]
        exact (n.took task htx m).2
      · have idle : p'.stand.pending = none := m.pending_none fun same => htx (same.symm.trans htx')
        exact ⟨none, .of_none idle _, by simpa using journals tx⟩
    · have apart : p.tx ≠ some tx := fun h =>
        ne (t.apart ((txOf_eq hq).trans htx) ((txOf_eq task).trans h))
      rw [took_journals _ _ _ apart, took_drawsOf_other _ _ _ apart]
      exact n.pending other q hq tx htx
  | @cancelled tx name p task htx =>
    refine ⟨(close_sequences ..).symm ▸ n.counted, n.journals, fun other q hq => ?_⟩
    exact n.pending other q (task_of_dropped hq).2
  | left =>
    exact ⟨n.counted, n.journals, fun other q hq => n.pending other q (task_of_dropped hq).2⟩
  | armed => exact ⟨n.counted, n.journals, n.pending⟩

theorem draws_grow (h : Happened sys sys') : sys.draws <+: sys'.draws := by
  cases h with
  | @moved mark next name p p' task m =>
    cases htx : p.tx with
    | none => exact List.prefix_rfl
    | some tx => exact List.prefix_append ..
  | _ => exact List.prefix_rfl

/-- No sequence has come round to its start. -/
def Enough (sys : System Result) : Prop :=
  ∀ kind, (ofKind kind (sys.draws.map (·.2))).length ≤ Int64.size

theorem Enough.before (enough : sys'.Enough) (h : Happened sys sys') : sys.Enough := fun kind =>
  Nat.le_trans (((draws_grow h).sublist.map _).filterMap _).length_le (enough kind)

/-- What holds after a run and after every happening from there holds after every longer run in
which the sequences do not come round to their start. -/
theorem enough_induction {motive : System Result → Prop} {connections : Nat}
    {programs : (name : Name) → Program (Result name)} (always : System Result → Prop)
    (earlier later : List (Happening Name))
    (first : always ((start connections programs).run earlier))
    (keep : ∀ sys sys', sys.Tidy → sys.Guarded → always sys → Happened sys sys' → always sys')
    (holds : motive ((start connections programs).run earlier))
    (next : ∀ sys sys', sys.Tidy → sys.Guarded → always sys → motive sys → Happened sys sys' →
      sys'.Enough → motive sys')
    (enough : ((start connections programs).run (earlier ++ later)).Enough) :
    motive ((start connections programs).run (earlier ++ later)) := by
  refine (later_induction (motive := fun sys => always sys ∧ (sys.Enough → motive sys))
    ⟨first, fun _ => holds⟩ ?_ later).2 enough
  rintro sys sys' t g ⟨a, before⟩ h
  refine ⟨keep _ _ t g a h, fun enough => ?_⟩
  exact next _ _ t g a (before (enough.before h)) h enough

theorem numbered_run (connections : Nat) (programs : (name : Name) → Program (Result name))
    (happenings : List (Happening Name)) : ((start connections programs).run happenings).Numbered :=
  run_induction (.start connections programs) (fun _ _ t _ n h => n.happened t h) happenings

theorem draws_length (n : sys.Numbered) (h : Happened sys sys') :
    sys'.draws.length ≤ sys.draws.length + 1 := by
  cases h with
  | @moved mark next name p p' task m =>
    cases htx : p.tx with
    | none => exact Nat.le_succ _
    | some tx =>
      obtain ⟨drawn, before, -⟩ := n.pending name p task tx htx
      obtain ⟨more, -, drew, -⟩ := m.drew before
      have one : more.toList.length ≤ 1 := by cases more <;> simp
      rw [drew_toList drew, List.length_append] at one
      rw [took_draws, List.length_append, List.length_map]
      omega
  | _ => exact Nat.le_succ _

/-- A happening draws one number at most. -/
theorem draws_length_run (connections : Nat) (programs : (name : Name) → Program (Result name))
    (happenings : List (Happening Name)) :
    ((start connections programs).run happenings).draws.length ≤ happenings.length := by
  induction happenings using List.reverseRecOn with
  | nil => exact Nat.le_refl 0
  | append_singleton happenings h ih =>
    have t := tidy_run connections programs happenings
    have one := draws_length (numbered_run connections programs happenings)
      (after_happened t.opened t.staged h)
    rw [run_snoc, List.length_append]
    exact Nat.le_trans one (Nat.succ_le_succ ih)

/-- A sequence does not come round in a run of fewer happenings than it has numbers. -/
theorem enough_run (connections : Nat) (programs : (name : Name) → Program (Result name))
    {happenings : List (Happening Name)} (h : happenings.length ≤ Int64.size) :
    ((start connections programs).run happenings).Enough := by
  intro kind
  refine Nat.le_trans (List.length_filterMap_le ..) ?_
  rw [List.length_map]
  exact Nat.le_trans (draws_length_run connections programs happenings) h

omit [DecidableEq Name]

theorem Numbered.nodup_draws (n : sys.Numbered) (enough : sys.Enough) :
    (sys.draws.map (·.2)).Nodup :=
  nodup_of_kinds fun kind => by
    obtain ⟨count, numbers, -⟩ := n.counted kind
    rw [numbers]
    refine nodup_firstNumbers ?_
    simpa [numbers] using enough kind

theorem Numbered.nodup_journal (n : sys.Numbered) (enough : sys.Enough) (tx : TxId) :
    (numbersOf (sys.journals tx)).Nodup :=
  ((n.journals tx).trans (List.filter_sublist.map _)).nodup (n.nodup_draws enough)

theorem Numbered.drawn (n : sys.Numbered) (made : number ∈ numbersOf (sys.journals tx)) :
    (tx, number) ∈ sys.draws := by
  obtain ⟨⟨tx', _⟩, kept, rfl⟩ := List.mem_map.mp ((n.journals tx).subset made)
  obtain ⟨drawn, same⟩ := List.mem_filter.mp kept
  obtain rfl : tx' = tx := by simpa using same
  exact drawn

/-- The numbers of rows that were made in committed transactions were drawn in them. -/
theorem Numbered.drawn_committed (n : sys.Numbered) (f : sys.Filed)
    (made : number ∈ numbersOf (deedsOf sys.history)) :
    ∃ c ∈ sys.history, (c.tx, number) ∈ sys.draws := by
  obtain ⟨d, hd, hnumber⟩ := List.mem_filterMap.mp made
  obtain ⟨c, hc, hd⟩ := List.mem_flatMap.mp hd
  exact ⟨c, hc, n.drawn (f.deeds c hc ▸ List.mem_filterMap.mpr ⟨d, hd, hnumber⟩)⟩

/-- A number that is still to be drawn is that of no row that was made in a committed
transaction. -/
theorem Numbered.unused {kind : RowKind} {id : Id kind} (n : sys.Numbered) (ahead : Nat)
    (f : sys.Filed) (room : (ofKind kind (sys.draws.map (·.2))).length + ahead < Int64.size)
    (next : id.value = sys.store.sequences.last kind + .ofNat (ahead + 1)) :
    ⟨kind, id⟩ ∉ numbersOf (deedsOf sys.history) := by
  intro made
  obtain ⟨count, numbers, last⟩ := n.counted kind
  obtain ⟨c, -, drawn⟩ := n.drawn_committed f made
  have given : id.value ∈ ofKind kind (sys.draws.map (·.2)) :=
    List.mem_filterMap.mpr ⟨⟨kind, id⟩, List.mem_map.mpr ⟨_, drawn, rfl⟩, if_pos rfl⟩
  rw [numbers] at given room
  rw [firstNumbers_length] at room
  refine notMem_firstNumbers (Nat.le_add_right count ahead) room ?_
  rwa [next, last, ← Int64.ofNat_add, ← Nat.add_assoc] at given

/-- The rows that were made in committed transactions have numbers of their own. -/
theorem nodup_numbers (n : sys.Numbered) (f : sys.Filed) (enough : sys.Enough) :
    (numbersOf (deedsOf sys.history)).Nodup := by
  rw [numbersOf, deedsOf, List.filterMap_flatMap]
  refine List.nodup_flatMap.mpr ⟨fun c hc => ?_, ?_⟩
  · exact f.deeds c hc ▸ n.nodup_journal enough c.tx
  · refine (List.pairwise_map.mp f.once).imp_of_mem fun {c c'} hc hc' apart number h h' => apart ?_
    have source : ∀ c ∈ sys.history, number ∈ numbersOf c.deeds → (c.tx, number) ∈ sys.draws :=
      fun c hc h => n.drawn (f.deeds c hc ▸ h)
    have same := List.inj_on_of_nodup_map (n.nodup_draws enough) (source c hc h)
      (source c' hc' h') rfl
    exact congrArg Prod.fst same

end System

end Passbook.Store
