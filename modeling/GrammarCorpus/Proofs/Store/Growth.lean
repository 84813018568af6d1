import GrammarCorpus.Proofs.Files.Change
import GrammarCorpus.Proofs.Store.Residue

namespace GrammarCorpus

/-!
# How a corpus grows

While files are staged and moved, the tree grows by one entry at a time, and every
entry is accounted for when it is made.
-/

open FileTree

variable {directory : Location} {old tree : FileTree} {site : Site directory old}
variable {created moved : List Path} {staging : List (List String)}
variable {location : Location}

namespace Site.Residue

/-- An entry that is accounted for is put into a directory. -/
theorem insert
    {entry : Entry}
    (residue : site.Residue created moved staging tree)
    (free : old.find? location = none)
    (above : tree.isDirectory location.tail = true)
    (noDirectory : tree.isDirectory location = false)
    (accounted : site.Accounted created moved staging location entry) :
    site.Residue created moved staging (tree.insert location entry) := by
  obtain ⟨name, parent, rfl⟩ : ∃ name parent, location = name :: parent := by
    cases location with
    | nil => cases free
    | cons name parent => exact ⟨name, parent, rfl⟩
  refine { residue with
    within := within_insert (by simp) residue.within free _
    grounded := residue.grounded.insert _ above noDirectory
    accounted := ?_ }
  intro other found finds before
  rw [find?_insert_below (by simp)] at finds
  split at finds
  · rename_i here
    cases finds
    exact here ▸ accounted
  · exact residue.accounted other found finds before

/-- Directories that are made on the way are accounted for. -/
theorem furnish
    {parts : List String}
    {after : FileTree}
    (residue : site.Residue created moved staging tree)
    (furnished : Furnished directory (site.path parts) tree after)
    (downward : site.Downward parts)
    (listed : ∀ taken,
      taken ≠ [] →
        taken <+: parts →
        tree.find? (site.place taken) = none →
        site.path taken ∈ created ∨ ∃ root ∈ staging, root <+: taken) :
    site.Residue created moved staging after := by
  induction furnished with
  | done => exact residue
  | made earlier onTheWay leads free inductionHypothesis =>
      rename_i between beginning location
      have reached := inductionHypothesis
      rcases prefix_cases onTheWay with short | ⟨taken, some, inside, rfl⟩
      · have holds := contains_of_known reached.within short leads
        obtain ⟨entry, found⟩ := contains_iff.1 holds
        cases found.symm.trans free
      · obtain ⟨rfl, usable, above⟩ :=
          site.eq_place_of_resolve reached.within some (downward.of_beginning inside) leads
        refine reached.insert (reached.within.free free) above ?_ ?_
        · simp [FileTree.isDirectory, free]
        · rcases listed taken some inside (earlier.within.free free) with
            isListed | ⟨root, isStaging, below⟩
          · exact .created isListed usable
          · by_cases itself : taken = root
            · subst itself
              exact .staging isStaging usable
            · refine .staged isStaging (place_suffix_iff.2 below) ?_
              exact fun same => itself (place_injective same)

/-- A new file of the tree is removed from it. -/
theorem eraseFile
    {content : ByteArray}
    (residue : site.Residue created moved staging tree)
    (free : old.find? location = none)
    (file : tree.find? location = some (.file content)) :
    site.Residue created moved staging (tree.erase location) := by
  refine residue.erase (List.Subset.refl _) (List.Subset.refl _) free
    (residue.grounded.childless_of_file file) ?_ fun _ _ _ accounted => accounted
  rintro rfl
  cases free

end Site.Residue

end GrammarCorpus
