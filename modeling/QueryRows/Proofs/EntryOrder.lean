import QueryRows.NameMap
import QueryRows.Proofs.Substitution
/-!
# EntryOrder — when the order of named values shows in a query text

A token that is a name finds the value of that name, whatever other names there are.  Else it finds the first of the
names that differ from it in the case of letters, and the order of the entries decides which one that is: the least one
where they are sorted.  So what a token finds is the same in every order exactly if it is a name itself or those names
have one value at most, and then a template has the same text from entries in any order as from the sorted ones
(`entriesSource_orders`).
-/
namespace QueryRows

/-- The name of an entry is the token, up to the case of ASCII letters. -/
def fits (token : String) (e : String × Value) : Bool := Text.sameIgnoringAsciiCase e.1 token

/-- **The order of entries does not matter to a token**: it is a name itself, or all names that fit have the same value,
or no name fits. -/
def OrderFree (entries : List (String × Value)) (token : String) : Prop :=
  token ∈ entries.map (·.1) ∨
    (∀ e ∈ entries, ∀ e' ∈ entries, fits token e = true → fits token e' = true → e.2 = e'.2) ∨
    ∀ e ∈ entries, fits token e = false

section

variable {entries as : List (String × Value)} {token : String} {v : Value}

/-- **A token that is a name finds its own value.** -/
theorem lookupEntry_of_mem (h : (entries.map (·.1)).Nodup) (hmem : (token, v) ∈ entries) :
    lookupEntry entries token = .found v true := by
  rw [lookupEntry, (mem_iff_lookup h).1 hmem]

/-- **A token that is no name finds the first entry that fits.** -/
theorem lookupEntry_of_not_mem (h : token ∉ entries.map (·.1)) : lookupEntry entries token =
    ((entries.find? (fits token)).map fun e => Lookup.found e.2 true).getD .missing := by
  have hnone : entries.lookup token = none := List.lookup_eq_none_iff.2 fun e he => by
    rw [bne_iff_ne]
    exact fun heq => h (heq ▸ List.mem_map_of_mem he)
  rw [lookupEntry, hnone, show (fun e => Text.sameIgnoringAsciiCase e.1 token) = fits token from rfl]
  cases entries.find? (fits token) <;> rfl

theorem lookupEntry_cons_of_fits {e : String × Value} (h : token ∉ (e :: entries).map (·.1))
    (hfits : fits token e = true) : lookupEntry (e :: entries) token = .found e.2 true := by
  rw [lookupEntry_of_not_mem h, List.find?_cons, hfits]
  rfl

theorem perm_cons_of_mem {e : String × Value} (he : e ∈ entries) : ∃ rest, (e :: rest).Perm entries := by
  obtain ⟨before, after, rfl⟩ := List.append_of_mem he
  exact ⟨before ++ after, List.perm_middle.symm⟩

theorem lookupEntry_perm (h : (entries.map (·.1)).Nodup) (hfree : OrderFree entries token) (hperm : as.Perm entries) :
    lookupEntry as token = lookupEntry entries token := by
  by_cases hmem : token ∈ entries.map (·.1)
  · obtain ⟨e, he, rfl⟩ := List.mem_map.1 hmem
    rw [lookupEntry_of_mem h he, lookupEntry_of_mem ((hperm.map _).nodup_iff.2 h) (hperm.mem_iff.2 he)]
  · rw [lookupEntry_of_not_mem hmem, lookupEntry_of_not_mem (mt (hperm.map _).mem_iff.1 hmem)]
    cases has : as.find? (fits token) with
    | none =>
      have hentries : entries.find? (fits token) = none :=
        List.find?_eq_none.2 fun e he => List.find?_eq_none.1 has e (hperm.mem_iff.2 he)
      rw [hentries]
    | some e =>
      have he : e ∈ entries := hperm.mem_iff.1 (List.mem_of_find?_eq_some has)
      obtain ⟨e', hentries⟩ : ∃ e', entries.find? (fits token) = some e' :=
        Option.isSome_iff_exists.1 (List.find?_isSome.2 ⟨e, he, List.find?_some has⟩)
      rw [hentries, Option.map_some, Option.map_some]
      rcases hfree with hname | hsame | hnone
      · exact absurd hname hmem
      · rw [hsame e he e' (List.mem_of_find?_eq_some hentries) (List.find?_some has) (List.find?_some hentries)]
      · exact absurd (List.find?_some has) (by rw [hnone e he]; exact Bool.false_ne_true)

/-- **A token finds the same in every order exactly if the order does not matter to it.** -/
theorem lookupEntry_perm_iff (h : (entries.map (·.1)).Nodup) :
    (∀ as : List (String × Value), as.Perm entries → lookupEntry as token = lookupEntry entries token) ↔
      OrderFree entries token := by
  refine ⟨fun hsame => ?_, fun hfree as hperm => lookupEntry_perm h hfree hperm⟩
  by_cases hmem : token ∈ entries.map (·.1)
  · exact .inl hmem
  · -- each of the entries that fit is found in the order that puts it first
    have hfirst : ∀ e ∈ entries, fits token e = true → lookupEntry entries token = .found e.2 true := by
      intro e he hfits
      obtain ⟨rest, hperm⟩ := perm_cons_of_mem he
      rw [← hsame _ hperm]
      exact lookupEntry_cons_of_fits (mt (hperm.map _).mem_iff.1 hmem) hfits
    exact .inr (.inl fun e he e' he' hfits hfits' =>
      (Lookup.found.inj ((hfirst e he hfits).symm.trans (hfirst e' he' hfits'))).1)

/-- **Among sorted entries the least name that fits is found.** -/
theorem lookupEntry_sorted (h : SortedByName entries) (hmem : token ∉ entries.map (·.1))
    (hfits : ∃ e ∈ entries, fits token e = true) :
    ∃ e ∈ entries, fits token e = true ∧ (∀ e' ∈ entries, fits token e' = true → e.1 ≤ e'.1) ∧
      lookupEntry entries token = .found e.2 true := by
  obtain ⟨e, hfind⟩ := Option.isSome_iff_exists.1 (List.find?_isSome.2 hfits)
  have hlookup : lookupEntry entries token = .found e.2 true := by
    rw [lookupEntry_of_not_mem hmem, hfind]
    rfl
  obtain ⟨hfirst, before, after, rfl, hbefore⟩ := List.find?_eq_some_iff_append.1 hfind
  refine ⟨e, by simp, hfirst, fun e' he' hfits' => ?_, hlookup⟩
  rcases List.mem_append.1 he' with he' | he'
  · have hnot := hbefore e' he'
    rw [hfits'] at hnot
    cases hnot
  · rcases List.mem_cons.1 he' with rfl | he'
    · exact String.le_refl _
    · have hlt := (List.pairwise_cons.1 (List.pairwise_append.1 h).2.1).1 e' he'
      exact String.not_lt.1 fun hgt => String.lt_irrefl _ (String.lt_trans hlt hgt)

end

namespace Template

/-- **Sources that agree on the placeholders of a template make the same text of it.** -/
theorem substitute_congr {t : Template} {s₁ s₂ : Source} (h : ∀ name ∈ t.tokens, s₁ name = s₂ name) :
    t.substitute s₁ = t.substitute s₂ := by
  have halike : t.FilledAlike s₁ s₂ := filledAlike fun name hname => h name (mem_tokens_of_mandatory hname)
  cases hmissing : t.firstMissing? s₁ with
  | some name => rw [halike.first.error name hmissing, halike.second.error name (halike.firstMissing?_eq ▸ hmissing)]
  | none =>
    have hsegments : ∀ s ∈ t.segments, s.rendered s₁ = s.rendered s₂ := fun s hs =>
      halike.optional s hs fun name hname => h name (mem_tokens.2 ⟨s, hs, hname⟩)
    rw [halike.first.ok hmissing, halike.second.ok (halike.firstMissing?_eq ▸ hmissing), List.flatMap_congr hsegments]

end Template

/-- **What a token finds is the same in every order of the entries exactly if it is a name itself, or the names that fit
have one value, or no name fits.**  A name finds its own value, and among sorted entries any other token finds the least
name that fits.  So entries in any order make the same of a template as sorted ones, where this is so for all of its
placeholders. -/
theorem entriesSource_orders {entries : List (String × Value)} (h : (entries.map (·.1)).Nodup) :
    (∀ token, (∀ as : List (String × Value), as.Perm entries → entriesSource as token = entriesSource entries token) ↔
      OrderFree entries token) ∧
    (∀ token v, (token, v) ∈ entries → ∀ as : List (String × Value), as.Perm entries →
      entriesSource as token = .found v true) ∧
    (∀ token, token ∉ entries.map (·.1) → (∃ e ∈ entries, fits token e = true) →
      ∃ e ∈ entries, fits token e = true ∧ (∀ e' ∈ entries, fits token e' = true → e.1 ≤ e'.1) ∧
        entriesSource (NameMap.ofList entries).entries token = .found e.2 true) ∧
    ∀ t : Template, (∀ token ∈ t.tokens, OrderFree entries token) → ∀ as : List (String × Value), as.Perm entries →
      t.substitute (entriesSource as) = t.substitute (entriesSource (NameMap.ofList entries).entries) := by
  have hsorted : (NameMap.ofList entries).entries.Perm entries := perm_sortEntries h
  refine ⟨fun token => lookupEntry_perm_iff h, fun token v hmem as hperm => ?_, fun token hmem hfits => ?_,
    fun t hfree as hperm => Template.substitute_congr fun token htoken => ?_⟩
  · exact lookupEntry_of_mem ((hperm.map _).nodup_iff.2 h) (hperm.mem_iff.2 hmem)
  · obtain ⟨e, he, hfits⟩ := hfits
    obtain ⟨least, hleast, hfirst, hle, hfound⟩ := lookupEntry_sorted (NameMap.ofList entries).sorted
      (mt (hsorted.map _).mem_iff.1 hmem) ⟨e, hsorted.mem_iff.2 he, hfits⟩
    exact ⟨least, hsorted.mem_iff.1 hleast, hfirst, fun e' he' => hle e' (hsorted.mem_iff.2 he'), hfound⟩
  · exact (lookupEntry_perm h (hfree token htoken) hperm).trans (lookupEntry_perm h (hfree token htoken) hsorted).symm

/-- Two names differ in case only: `id` finds its own value in any order, `Id` one value or the other, and `name` finds
the only name that fits. -/
theorem entriesSource_orders_names :
    let entries : List (String × Value) := [("id", .long 1), ("ID", .long 2), ("Name", .text "x")]
    ∃ t, (entries.map (·.1)).Nodup ∧ Template.parse '#' "#id #name" = .ok t ∧
      (∀ token ∈ t.tokens, OrderFree entries token) ∧ t.substitute (entriesSource entries.reverse) = .ok "1 x" ∧
      t.substitute (entriesSource entries.reverse) = t.substitute (entriesSource (NameMap.ofList entries).entries) ∧
      ¬ OrderFree entries "Id" ∧ entriesSource (NameMap.ofList entries).entries "Id" = .found (.long 2) true := by
  intro entries
  let t : Template :=
    ⟨"#id #name", '#', [⟨false, [.token ['i', 'd'], .literal [' '], .token ['n', 'a', 'm', 'e']]⟩]⟩
  have hparse : Template.parse '#' "#id #name" = .ok t := ok_of_toOption (by decide +kernel)
  have hnodup : (entries.map (·.1)).Nodup := by decide
  obtain ⟨hfree, -, -, htext⟩ := entriesSource_orders hnodup
  have htokens : ∀ token ∈ t.tokens, OrderFree entries token := by
    have hnames : t.tokens = ["id", "name"] := by decide +kernel
    rw [hnames]
    refine List.forall_mem_cons.2 ⟨.inl (by decide), List.forall_mem_singleton.2 (.inr (.inl ?_))⟩
    have hfits : entries.filter (fits "name") = [("Name", .text "x")] := by rfl
    intro e he e' he' hname hname'
    have hmem := List.mem_filter.2 ⟨he, hname⟩
    have hmem' := List.mem_filter.2 ⟨he', hname'⟩
    rw [hfits, List.mem_singleton] at hmem hmem'
    rw [hmem, hmem']
  refine ⟨t, hnodup, hparse, htokens, rfl, htext t htokens _ entries.reverse_perm, fun h => ?_, rfl⟩
  cases (hfree "Id").2 h _ entries.reverse_perm

end QueryRows
