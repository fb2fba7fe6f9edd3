import Mathlib.Algebra.Field.Rat
import Mathlib.Tactic.FieldSimp
import LightningGoats.Quotes.Undisturbed

/-! # One rate at one time

Only the newest observation of a source is kept, in the representation that was
seen first. It still speaks for every quote that was completed at its time, so
any two of them agree.
-/

namespace LightningGoats

open Outcome Relational Text

/-! ## Rates as rationals -/

def XmrBtcRate.satsPerXmr (rate : XmrBtcRate) : ℚ :=
  rate.numerator / rate.denominator

theorem satsPerXmr_eq_iff {left right : XmrBtcRate} :
    left.satsPerXmr = right.satsPerXmr ↔
      left.numerator * right.denominator = right.numerator * left.denominator := by
  have leftNonzero : (left.denominator : ℚ) ≠ 0 :=
    Nat.cast_ne_zero.mpr (Nat.ne_of_gt left.denominatorPositive)
  have rightNonzero : (right.denominator : ℚ) ≠ 0 :=
    Nat.cast_ne_zero.mpr (Nat.ne_of_gt right.denominatorPositive)
  rw [XmrBtcRate.satsPerXmr, XmrBtcRate.satsPerXmr, div_eq_div_iff leftNonzero rightNonzero]
  exact_mod_cast Iff.rfl

theorem products_fit (left right : XmrBtcRate) :
    left.numerator * right.denominator < 2 ^ 128 := by
  have product := Nat.mul_lt_mul'' left.numeratorBounded right.denominatorBounded
  calc left.numerator * right.denominator < 2 ^ 64 * 2 ^ 64 := product
    _ = 2 ^ 128 := by decide

/-! ## Watermarks -/

structure XmrBtcRate.Succeeds (later earlier : XmrBtcRate) : Prop where
  ordered : earlier.observedAt ≤ later.observedAt
  agrees : earlier.observedAt = later.observedAt → earlier.satsPerXmr = later.satsPerXmr

theorem XmrBtcRate.Succeeds.refl (rate : XmrBtcRate) : rate.Succeeds rate :=
  ⟨Int.le_refl _, fun _ => rfl⟩

theorem XmrBtcRate.Succeeds.of_newer {later earlier : XmrBtcRate}
    (newer : earlier.observedAt < later.observedAt) : later.Succeeds earlier :=
  ⟨Int.le_of_lt newer, fun same => absurd same (Int.ne_of_lt newer)⟩

theorem XmrBtcRate.Succeeds.trans {first second third : XmrBtcRate}
    (later : third.Succeeds second) (earlier : second.Succeeds first) : third.Succeeds first where
  ordered := Int.le_trans earlier.ordered later.ordered
  agrees := by
    intro same
    have sameSecond : first.observedAt = second.observedAt :=
      Int.le_antisymm earlier.ordered (same ▸ later.ordered)
    exact (earlier.agrees sameSecond).trans (later.agrees (sameSecond.symm.trans same))

/-- What the watermarks say about the rates that were accepted, in their order. -/
structure RatesMarked (accepted : List XmrBtcRate) (db : QuoteDb) : Prop where
  succession : accepted.Pairwise fun earlier later =>
    earlier.source = later.source → later.Succeeds earlier
  marked : ∀ rate ∈ accepted, ∃ mark ∈ db.xmrRateWatermarks.rows, mark.source = rate.source
  ofRates : ∀ mark ∈ db.xmrRateWatermarks.rows, ∃ newest, mark = .ofRate newest ∧
    ∀ rate ∈ accepted, rate.source = mark.source → newest.Succeeds rate

namespace RatesMarked

variable {accepted : List XmrBtcRate} {rate : XmrBtcRate} {before after : QuoteDb}

theorem ofFresh : RatesMarked [] .fresh where
  succession := .nil
  marked := by simp
  ofRates := by simp [QuoteDb.fresh]

theorem of_same (ratesMarked : RatesMarked accepted before)
    (same : after.xmrRateWatermarks = before.xmrRateWatermarks) :
    RatesMarked accepted after where
  succession := ratesMarked.succession
  marked := same ▸ ratesMarked.marked
  ofRates := same ▸ ratesMarked.ofRates

/-- A rate that succeeds the watermark of its source succeeds all before it. -/
theorem succeeds_of_mark (ratesMarked : RatesMarked accepted before) {mark : RateWatermark}
    (member : mark ∈ before.xmrRateWatermarks.rows) (sameSource : mark.source = rate.source)
    (succeeds : ∀ newest, mark = .ofRate newest → rate.Succeeds newest) :
    ∀ earlier ∈ accepted, earlier.source = rate.source → rate.Succeeds earlier := by
  intro earlier isEarlier same
  rcases ratesMarked.ofRates mark member with ⟨newest, isNewest, newestSucceeds⟩
  exact (succeeds newest isNewest).trans
    (newestSucceeds earlier isEarlier (same.trans sameSource.symm))

theorem succession_concat (ratesMarked : RatesMarked accepted before)
    (succeeds : ∀ earlier ∈ accepted, earlier.source = rate.source → rate.Succeeds earlier) :
    (accepted ++ [rate]).Pairwise fun earlier later =>
      earlier.source = later.source → later.Succeeds earlier := by
  refine List.pairwise_append.mpr ⟨ratesMarked.succession, by simp,
    fun earlier isEarlier later isLater => ?_⟩
  rw [List.mem_singleton.mp isLater]
  exact succeeds earlier isEarlier

theorem of_agrees (ratesMarked : RatesMarked accepted before) {mark : RateWatermark}
    (member : mark ∈ before.xmrRateWatermarks.rows) (sameSource : mark.source = rate.source)
    (agrees : ∀ newest, mark = .ofRate newest →
      newest.observedAt = rate.observedAt ∧ newest.satsPerXmr = rate.satsPerXmr) :
    RatesMarked (accepted ++ [rate]) before := by
  have succeeds := ratesMarked.succeeds_of_mark member sameSource fun newest isNewest =>
    ⟨Int.le_of_eq (agrees newest isNewest).1, fun _ => (agrees newest isNewest).2⟩
  constructor
  · exact ratesMarked.succession_concat succeeds
  · intro earlier isEarlier
    rcases List.mem_append.mp isEarlier with old | isNew
    · exact ratesMarked.marked earlier old
    · rw [List.mem_singleton.mp isNew]
      exact ⟨mark, member, sameSource⟩
  · intro other isOther
    rcases ratesMarked.ofRates other isOther with ⟨newest, isNewest, newestSucceeds⟩
    refine ⟨newest, isNewest, fun earlier isEarlier same => ?_⟩
    rcases List.mem_append.mp isEarlier with old | isNew
    · exact newestSucceeds earlier old same
    · rw [List.mem_singleton.mp isNew] at same ⊢
      have sameMark : other = mark := before.xmrRateWatermarks.row_eq_of_key isOther member
        (same.symm.trans sameSource.symm)
      rcases agrees newest (sameMark ▸ isNewest) with ⟨sameTime, sameRatio⟩
      exact ⟨Int.le_of_eq sameTime.symm, fun _ => sameRatio.symm⟩

theorem of_advances (ratesMarked : RatesMarked accepted before) {mark : RateWatermark}
    (member : mark ∈ before.xmrRateWatermarks.rows) (sameSource : mark.source = rate.source)
    (newer : mark.observedAt < rate.observedAt)
    (rows : after.xmrRateWatermarks.rows =
      before.xmrRateWatermarks.rows.map (RateWatermark.advance rate)) :
    RatesMarked (accepted ++ [rate]) after := by
  have succeeds := ratesMarked.succeeds_of_mark member sameSource fun newest isNewest =>
    XmrBtcRate.Succeeds.of_newer (by rw [isNewest] at newer; exact newer)
  constructor
  · exact ratesMarked.succession_concat succeeds
  · intro earlier isEarlier
    rw [rows]
    have kept : ∀ existing ∈ before.xmrRateWatermarks.rows, ∃ mark ∈
        before.xmrRateWatermarks.rows.map (RateWatermark.advance rate),
          mark.source = existing.source := fun existing isExisting =>
      ⟨_, List.mem_map_of_mem isExisting, RateWatermark.advance_source rate existing⟩
    rcases List.mem_append.mp isEarlier with old | isNew
    · rcases ratesMarked.marked earlier old with ⟨existing, isExisting, same⟩
      rcases kept existing isExisting with ⟨moved, isMoved, sameMoved⟩
      exact ⟨moved, isMoved, sameMoved.trans same⟩
    · rcases kept mark member with ⟨moved, isMoved, sameMoved⟩
      rw [List.mem_singleton.mp isNew]
      exact ⟨moved, isMoved, sameMoved.trans sameSource⟩
  · intro moved isMoved
    rw [rows] at isMoved
    rcases List.mem_map.mp isMoved with ⟨existing, isExisting, rfl⟩
    by_cases same : existing.source = rate.source
    · refine ⟨rate, if_pos same, fun earlier isEarlier isSource => ?_⟩
      rw [RateWatermark.advance_source] at isSource
      rcases List.mem_append.mp isEarlier with old | isNew
      · exact succeeds earlier old (isSource.trans same)
      · rw [List.mem_singleton.mp isNew]
        exact .refl rate
    · have unmoved : existing.advance rate = existing := if_neg same
      rw [unmoved]
      rcases ratesMarked.ofRates existing isExisting with ⟨newest, isNewest, newestSucceeds⟩
      refine ⟨newest, isNewest, fun earlier isEarlier isSource => ?_⟩
      rcases List.mem_append.mp isEarlier with old | isNew
      · exact newestSucceeds earlier old isSource
      · rw [List.mem_singleton.mp isNew] at isSource
        exact absurd isSource.symm same

theorem of_begins (ratesMarked : RatesMarked accepted before)
    (absent : ∀ mark ∈ before.xmrRateWatermarks.rows, mark.source ≠ rate.source)
    (rows : after.xmrRateWatermarks.rows = before.xmrRateWatermarks.rows ++ [.ofRate rate]) :
    RatesMarked (accepted ++ [rate]) after := by
  have unseen : ∀ earlier ∈ accepted, earlier.source ≠ rate.source := by
    intro earlier isEarlier same
    rcases ratesMarked.marked earlier isEarlier with ⟨mark, member, sameMark⟩
    exact absent mark member (sameMark.trans same)
  constructor
  · exact ratesMarked.succession_concat fun earlier isEarlier same =>
      absurd same (unseen earlier isEarlier)
  · intro earlier isEarlier
    rw [rows]
    rcases List.mem_append.mp isEarlier with old | isNew
    · rcases ratesMarked.marked earlier old with ⟨mark, member, same⟩
      exact ⟨mark, List.mem_append_left _ member, same⟩
    · rw [List.mem_singleton.mp isNew]
      exact ⟨_, List.mem_append_right _ List.mem_cons_self, rfl⟩
  · intro mark isMark
    rw [rows] at isMark
    rcases List.mem_append.mp isMark with isExisting | isNewMark
    · rcases ratesMarked.ofRates mark isExisting with ⟨newest, isNewest, newestSucceeds⟩
      refine ⟨newest, isNewest, fun earlier isEarlier same => ?_⟩
      rcases List.mem_append.mp isEarlier with old | isNew
      · exact newestSucceeds earlier old same
      · rw [List.mem_singleton.mp isNew] at same
        exact absurd same.symm (absent mark isExisting)
    · rw [List.mem_singleton.mp isNewMark]
      refine ⟨rate, rfl, fun earlier isEarlier same => ?_⟩
      rcases List.mem_append.mp isEarlier with old | isNew
      · exact absurd same (unseen earlier old)
      · rw [List.mem_singleton.mp isNew]
        exact .refl rate

theorem of_marks (ratesMarked : RatesMarked accepted before) (marks : MarksRate rate before after) :
    RatesMarked (accepted ++ [rate]) after := by
  cases marks with
  | agrees member sameSource isNumerator isDenominator sameTime sameRatio =>
      refine ratesMarked.of_agrees member sameSource fun newest isNewest => ?_
      subst isNewest
      rcases parseU64_ofRate newest with ⟨_, readNumerator, numeratorEq, _, readDenominator,
        denominatorEq⟩
      cases readNumerator.symm.trans isNumerator
      cases readDenominator.symm.trans isDenominator
      rw [numeratorEq, denominatorEq] at sameRatio
      exact ⟨sameTime, (satsPerXmr_eq_iff.mpr sameRatio).symm⟩
  | advances member sameSource newer =>
      exact ratesMarked.of_advances member sameSource newer (by simp)
  | begins absent fresh => exact ratesMarked.of_begins absent (by simp)

end RatesMarked

/-! ## Runs -/

section Runs

variable [QuoteJson]

def StoredXmrQuote.rate (stored : StoredXmrQuote) : XmrBtcRate :=
  stored.quote.rate

variable [SerdeJson]

theorem RatesMarked.of_changes {completed : List StoredXmrQuote} {before after : QuoteDb}
    {change : QuoteChange}
    (ratesMarked : RatesMarked (completed.map StoredXmrQuote.rate) before)
    (changes : QuoteChanges before change after) :
    RatesMarked ((completed ++ change.completion.toList).map StoredXmrQuote.rate) after := by
  cases changes with
  | @completes _ _ _ _ now _ _ _ _ _ _ _ marks =>
      rw [QuoteChange.completion, Option.toList_some, List.map_append]
      have ticked := ratesMarked.of_same (tick_xmrRateWatermarks now before)
      exact (ticked.of_marks marks).of_same (settleQuoteRequest_xmrRateWatermarks _ _ _)
  | _ =>
      change RatesMarked ((completed ++ []).map StoredXmrQuote.rate) _
      rw [List.append_nil]
      exact ratesMarked.of_same rfl

theorem RatesMarked.of_history {completed : List StoredXmrQuote} {changes : List QuoteChange}
    {before after : QuoteDb}
    (ratesMarked : RatesMarked (completed.map StoredXmrQuote.rate) before)
    (history : QuoteHistory before changes after) :
    RatesMarked ((completed ++ changes.filterMap QuoteChange.completion).map
      StoredXmrQuote.rate) after := by
  induction history generalizing completed with
  | nil => simpa using ratesMarked
  | @cons _ _ _ change changes step _ induction =>
      have later := induction (ratesMarked.of_changes step)
      rw [List.append_assoc] at later
      rw [List.filterMap_cons]
      cases isCompletion : change.completion <;> simpa [isCompletion] using later

theorem RatesMarked.of_run {labels : List QuoteLabel} {system : QuoteSystem}
    (run : QuoteRun .initial labels system) :
    RatesMarked ((completions labels).map StoredXmrQuote.rate) system.db := by
  have fresh : RatesMarked (([] : List StoredXmrQuote).map StoredXmrQuote.rate) .fresh := .ofFresh
  have marked := fresh.of_history run.history
  rwa [List.nil_append, List.filterMap_map] at marked

/-- The ready quotes, in the order of their completion, agree about every rate,
and a completion that fails marks nothing. -/
theorem quote_rates_agree {labels : List QuoteLabel} {system : QuoteSystem}
    (run : QuoteRun .initial labels system) :
    (completions labels).Pairwise (fun earlier later =>
      earlier.rate.source = later.rate.source →
        earlier.rate.observedAt ≤ later.rate.observedAt) ∧
    (∀ left ∈ completions labels, ∀ right ∈ completions labels,
      left.rate.source = right.rate.source →
        left.rate.observedAt = right.rate.observedAt →
          left.rate.satsPerXmr = right.rate.satsPerXmr) ∧
    (∀ left ∈ completions labels, ∀ right ∈ completions labels,
      left.rate.numerator * right.rate.denominator < 2 ^ 128) ∧
    (∀ row ∈ system.db.xmrQuoteRequests.rows, ∀ documentJson,
      row.status = .ready documentJson → ∃ stored ∈ completions labels, RowHolds row stored) ∧
    (∀ stored ∈ completions labels,
      ∃ row ∈ system.db.xmrQuoteRequests.rows, RowHolds row stored) ∧
    ∀ earlier index caller stored now replied error response later source target,
      labels = earlier ++
        .acted index caller (.completed stored now replied (.error error)) response :: later →
      QuoteRun .initial earlier source →
      QuoteStep source
        (.acted index caller (.completed stored now replied (.error error)) response) target →
      target.db.xmrRateWatermarks = source.db.xmrRateWatermarks := by
  have ratesMarked := RatesMarked.of_run run
  have readyRows := ReadyRows.of_run run
  have succession := List.pairwise_map.mp ratesMarked.succession
  refine ⟨?_, ?_, fun left _ right _ => products_fit left.rate right.rate,
    readyRows.completedOf, readyRows.readyOf, ?_⟩
  · exact succession.imp fun succeeds same => (succeeds same).ordered
  · exact List.Pairwise.forall_of_forall_of_flip (fun _ _ _ _ => rfl)
      (succession.imp fun succeeds same => (succeeds same).agrees)
      (succession.imp fun succeeds same sameTime =>
        ((succeeds same.symm).agrees sameTime.symm).symm)
  · intro earlier index caller stored now replied error response later source target _ before
      step
    have changes : QuoteChanges source.db .none target.db :=
      QuoteStep.changes step (CallsSound.ofInitial.of_run before)
    rw [changes.eq_of_none]

end Runs

def halvesEvidence : RateEvidence where
  rate := { exampleEvidence.rate with
    numerator := 500000
    denominator := 2
    numeratorPositive := by decide
    denominatorPositive := Nat.two_pos
    numeratorBounded := by decide
    denominatorBounded := by decide }
  fetchedAt := 1000
  rawJson := exampleEvidenceJson
  chronological := exampleEvidence.chronological
  nonempty := exampleEvidence.nonempty
  bounded := exampleEvidence.bounded

def otherEvidence : RateEvidence where
  rate := { exampleEvidence.rate with
    numerator := 260000
    numeratorPositive := by decide
    numeratorBounded := by decide }
  fetchedAt := 1000
  rawJson := exampleEvidenceJson
  chronological := exampleEvidence.chronological
  nonempty := exampleEvidence.nonempty
  bounded := exampleEvidence.bounded

/-- Two quotes are completed at one rate, in two representations. The completion of a
third at another rate is refused. -/
theorem quote_rates_agree_example :
    letI := exampleQuoteJson
    letI := exampleJson
    ∃ labels system first second, QuoteRun .initial labels system ∧
      completions labels = [first, second] ∧ first.rate = exampleEvidence.rate ∧
      second.rate = halvesEvidence.rate ∧ first.rate.satsPerXmr = second.rate.satsPerXmr ∧
      ∃ earlier caller stored error response later source target, labels = earlier ++
          .acted 2 caller (.completed stored 1000 true (.error error)) response :: later ∧
        QuoteRun .initial earlier source ∧ QuoteStep source
          (.acted 2 caller (.completed stored 1000 true (.error error)) response) target ∧
        target.db.xmrRateWatermarks = source.db.xmrRateWatermarks := by
  let := exampleQuoteJson
  let := exampleJson
  rcases example_creates [] with ⟨first, db, created, issues, isPriced, _⟩
  have firstRate : first.quote.rate = exampleEvidence.rate := by
    rw [isPriced]
    exact examplePrice_fields.1
  have marked : db.xmrRateWatermarks.rows = [.ofRate exampleEvidence.rate] := by
    rw [issues.marks_first rfl, firstRate]
  have noneBefore : ∀ {id client}, ∀ row ∈ QuoteDb.fresh.xmrQuoteRequests.rows,
      row.id ≠ id ∧ row.clientBucket ≠ (exampleRequest id client).clientBucket := by
    simp [QuoteDb.fresh]
  have reservable : Reservable (exampleCreator ⟨8⟩ 'b') 1000 db := by
    apply example_reservable (issues.ticks (by decide) (by decide)) (by decide)
    · rw [issues.rows_length]
      decide
    · exact issues.absent (by decide) (by decide) noneBefore
  have accepts : AcceptsRate halvesEvidence.rate db := by
    apply acceptsRate_of
    intro mark isMark _
    rw [marked, List.mem_singleton] at isMark
    exact ⟨exampleEvidence.rate, isMark, by decide, fun _ => by decide⟩
  have halvesPrice : (examplePricing 1000 1000 halvesEvidence).isSome = true := by decide +kernel
  rcases @create_run _ _ db [⟨exampleCreator ⟨7⟩ 'a', .done⟩] (exampleCreator ⟨8⟩ 'b') _ 1000
    halvesEvidence _ rfl exampleIdentity_new.2.1 reservable (priceQuote_of_pricing halvesPrice)
    accepts with ⟨second, next, again, issuesAgain, isHalves, _⟩
  have secondRate : second.quote.rate = halvesEvidence.rate := by
    rw [isHalves]
    exact (priceQuote_fields (priceQuote_of_pricing halvesPrice)).1
  have markedAgain : next.xmrRateWatermarks.rows = [.ofRate exampleEvidence.rate] :=
    issuesAgain.marks_again marked (by rw [secondRate]; decide) (by rw [secondRate]; decide)
  have reservableAgain : Reservable (exampleCreator ⟨9⟩ 'c') 1000 next := by
    apply example_reservable (issuesAgain.ticks (by decide) (by decide)) (by decide)
    · rw [issuesAgain.rows_length, issues.rows_length]
      decide
    · apply issuesAgain.absent (by decide) (by decide)
      exact issues.absent (by decide) (by decide) noneBefore
  have refuses : ¬ AcceptsRate otherEvidence.rate next := by
    apply @not_acceptsRate_of _ exampleEvidence.rate
    · rw [markedAgain]
      exact List.mem_cons_self
    · rfl
    · rfl
    · decide
  have otherPrice : (examplePricing 1000 1000 otherEvidence).isSome = true := by decide +kernel
  rcases @failed_run _ _ next [⟨exampleCreator ⟨7⟩ 'a', .done⟩, ⟨exampleCreator ⟨8⟩ 'b', .done⟩]
    (exampleCreator ⟨9⟩ 'c') _ 1000 otherEvidence _ rfl exampleIdentity_new.2.2.1 reservableAgain
    (priceQuote_of_pricing otherPrice) refuses with ⟨stored, error, after, failed⟩
  rcases Execution.Run.at_split failed with ⟨source, target, before, step, rest⟩
  have toSource := created.append (again.append before)
  have run : QuoteRun .initial _ _ := toSource.append (.cons step rest)
  have agree := @quote_rates_agree exampleQuoteJson exampleJson _ _ run
  refine ⟨_, _, first, second, run, rfl, firstRate, secondRate, ?_, _, _, stored, error, _, _,
    source, target, rfl, toSource, step, ?_⟩
  · apply agree.2.1 first List.mem_cons_self second (List.mem_cons_of_mem _ List.mem_cons_self)
    · rw [StoredXmrQuote.rate, StoredXmrQuote.rate, firstRate, secondRate]
      rfl
    · rw [StoredXmrQuote.rate, StoredXmrQuote.rate, firstRate, secondRate]
      rfl
  · exact agree.2.2.2.2.2 _ 2 _ stored 1000 true error _ _ source target rfl toSource step

end LightningGoats
