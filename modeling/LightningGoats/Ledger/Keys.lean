import LightningGoats.Ledger.Changes

/-! # The text keys of the ledger

Valuations and ledger entries are identified by tagged texts. The tags contain
no separator, so keys of different tags differ and each key determines what it
was made from.
-/

namespace LightningGoats

theorem natText_inj {left right : Nat} (equal : toString left = toString right) :
    left = right :=
  Nat.repr_injective equal

theorem xmrId_inj {left right : Uuid} : xmrId left = xmrId right ↔ left = right := by
  constructor
  · intro equal
    have texts := (Text.joined_inj (by decide) (by decide)).mp equal
    exact Uuid.toText_injective texts.2
  · rintro rfl
    rfl

theorem btcId_inj {left right : Nat} : btcId left = btcId right ↔ left = right := by
  constructor
  · intro equal
    have texts := (Text.joined_inj (by decide) (by decide)).mp equal
    exact natText_inj texts.2
  · rintro rfl
    rfl

theorem xmrId_ne_btcId (id : Uuid) (settlementId : Nat) : xmrId id ≠ btcId settlementId :=
  Text.joined_ne (by decide) (by decide) (by decide)

theorem paymentKey_inj {source sourceId otherSource otherId : String}
    (free : ':' ∉ source.toList) (otherFree : ':' ∉ otherSource.toList) :
    paymentKey source sourceId = paymentKey otherSource otherId ↔
      source = otherSource ∧ sourceId = otherId := by
  constructor
  · intro equal
    have texts := (Text.joined_inj (by decide) (by decide)).mp equal
    exact (Text.joined_inj free otherFree).mp texts.2
  · rintro ⟨rfl, rfl⟩
    rfl

def feedKey (id : Uuid) : String :=
  Text.joined ':' "feed" id.toText

def receiptKey (receiptId : Nat) : String :=
  Text.joined ':' "asset-receipt" (toString receiptId)

theorem feedKey_inj {left right : Uuid} : feedKey left = feedKey right ↔ left = right := by
  constructor
  · intro equal
    have texts := (Text.joined_inj (by decide) (by decide)).mp equal
    exact Uuid.toText_injective texts.2
  · rintro rfl
    rfl

theorem receiptKey_inj {left right : Nat} :
    receiptKey left = receiptKey right ↔ left = right := by
  constructor
  · intro equal
    have texts := (Text.joined_inj (by decide) (by decide)).mp equal
    exact natText_inj texts.2
  · rintro rfl
    rfl

theorem paymentKey_ne_feedKey (source sourceId : String) (id : Uuid) :
    paymentKey source sourceId ≠ feedKey id :=
  Text.joined_ne (by decide) (by decide) (by decide)

theorem paymentKey_ne_receiptKey (source sourceId : String) (receiptId : Nat) :
    paymentKey source sourceId ≠ receiptKey receiptId :=
  Text.joined_ne (by decide) (by decide) (by decide)

theorem feedKey_ne_receiptKey (id : Uuid) (receiptId : Nat) :
    feedKey id ≠ receiptKey receiptId :=
  Text.joined_ne (by decide) (by decide) (by decide)

end LightningGoats
