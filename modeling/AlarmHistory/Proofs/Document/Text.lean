import AlarmHistory.Proofs.Document.Values
import AlarmHistory.Proofs.Json.RoundTrip

/- Whatever is written of a document holds no numbers but integers that fit 64 bits, so its text is
   read back as it was. -/
namespace AlarmHistory
open Json

theorem int32_exact (i : Int32) : (int32Json i).Exact := by
  have low := i.le_toInt
  have high := i.toInt_lt
  change -9223372036854775808 ≤ i.toInt ∧ i.toInt < 18446744073709551616
  omega

theorem int64_exact (i : Int64) : (int64Json i).Exact := by
  have low := i.le_toInt
  have high := i.toInt_lt
  change -9223372036854775808 ≤ i.toInt ∧ i.toInt < 18446744073709551616
  omega

theorem exact_hereditary : Hereditary Exact where
  null := trivial
  bool _ := trivial
  int32 := int32_exact
  int64 := int64_exact
  str _ := trivial
  arr vs each := (exact_items vs).mpr each
  obj ms _ each := (exact_members ms).mpr each

theorem ChangeLogs.json_exact (c : ChangeLogs) : c.json.Exact := c.json_holds exact_hereditary

theorem AlarmDocument.json_exact (d : AlarmDocument) : d.json.Exact := d.json_holds exact_hereditary

end AlarmHistory
