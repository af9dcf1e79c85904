import TableView.Json.Decode

/-! Settings of a table view and their JSON form. -/
namespace TableView

structure Settings where
  defaultPerPage : UInt32 := 25
  maxPerPage : UInt32 := 9999999
  /-- What the name of a searchable copy of a field adds to the field. -/
  searchFieldSuffix : String := "_for_searching"
  /-- The most buckets that counting by terms asks for. -/
  termsAggregationSize : UInt32 := 10000
  trackTotalHits : Bool := true
deriving DecidableEq, Repr

namespace Settings

def searchField (s : Settings) (field : String) : String := field ++ s.searchFieldSuffix

/-- The asked-for page length, or the default one, from one up to the greatest allowed. -/
def perPage (s : Settings) (requested : Option UInt32) : UInt32 :=
  min (max 1 (requested.getD s.defaultPerPage)) (max 1 s.maxPerPage)

open Json

def ofJson? (j : Json) : Option Settings := do
  let ms ← members? ["default_per_page", "max_per_page", "search_field_suffix",
    "terms_aggregation_size", "track_total_hits"] j
  return {
    defaultPerPage := ← defaulted? ms "default_per_page" uint32? 25
    maxPerPage := ← defaulted? ms "max_per_page" uint32? 9999999
    searchFieldSuffix := ← defaulted? ms "search_field_suffix" string? "_for_searching"
    termsAggregationSize := ← defaulted? ms "terms_aggregation_size" uint32? 10000
    trackTotalHits := ← defaulted? ms "track_total_hits" bool? true }

def toJson (s : Settings) : Json :=
  .obj [("default_per_page", .nat s.defaultPerPage.toNat),
    ("max_per_page", .nat s.maxPerPage.toNat),
    ("search_field_suffix", .str s.searchFieldSuffix),
    ("terms_aggregation_size", .nat s.termsAggregationSize.toNat),
    ("track_total_hits", .bool s.trackTotalHits)]

end Settings
end TableView
