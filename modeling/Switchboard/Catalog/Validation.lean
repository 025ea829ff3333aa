import Switchboard.Catalog.Message
import Switchboard.Failure
import Switchboard.Interceptor.Validation
import Switchboard.Text.Blank

/-!
# Validation of catalog requests

Rules that need no store: a name must not be blank and has a greatest length,
both after trimming, and a price is a positive amount. Every violation is
listed, names before prices.
-/

namespace Switchboard.Catalog

def nameErrors (limit : Nat) (name : String) : List FieldError :=
  let trimmed := Text.trim name
  if trimmed.isEmpty then [⟨"name", "must not be blank"⟩]
  else if limit < Text.count trimmed then
    [⟨"name", "must be at most " ++ Decimal.format limit ++ " characters"⟩]
  else []

def priceErrors (price : Binary64) : List FieldError :=
  if price.isFinite && price.isPositive then []
  else [⟨"price", "must be a positive amount"⟩]

def validateCreate (limit : Nat) : Interceptor.Validator CreateItem := fun request =>
  nameErrors limit request.name ++ priceErrors request.price

def validateRename (limit : Nat) : Interceptor.Validator RenameItem := fun request =>
  nameErrors limit request.name

end Switchboard.Catalog
