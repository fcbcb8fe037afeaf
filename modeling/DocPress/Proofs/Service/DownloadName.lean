import DocPress.Proofs.Text.PathName
import DocPress.Service.Download

/-! The name of a download. Main statement: it is one part of a path, a stem with the ending of documents
behind it, which is what it is for itself, and its stem is the title (`downloadName_title`). -/

namespace DocPress
open Text (PathName)

variable {stem : String}

theorem hasDocumentExtension_append (stem : String) :
    hasDocumentExtension (stem ++ documentExtension) = true := by
  have kept : (stem ++ documentExtension).length - documentExtension.toList.length =
      stem.toList.length := by
    rw [String.length_append,String.length_toList,String.length_toList,Nat.add_sub_cancel_right]
  unfold hasDocumentExtension
  dsimp only
  rw [kept,String.toList_append,List.drop_left]
  decide

theorem orElse_of_some {s : String} (some : s ≠ "") (fallback : String) : Service.orElse s fallback = s := by
  simp [Service.orElse,some]

/-- What stands before the ending of documents in the name of one. -/
structure IsDocumentStem (stem : String) : Prop where
  some : stem ≠ ""
  whole : '/' ∉ stem.toList

namespace IsDocumentStem

theorem chars (stem : String) : (stem ++ documentExtension).toList = stem.toList ++ ['.','d','o','c','x'] := by
  unfold documentExtension
  rw [String.toList_append]
  rfl

theorem ending_whole (isStem : IsDocumentStem stem) : '/' ∉ (stem ++ documentExtension).toList := by
  rw [chars,List.mem_append,not_or]
  exact ⟨isStem.whole,by decide⟩

theorem ofString (isStem : IsDocumentStem stem) :
    PathName.ofString (stem ++ documentExtension) = ⟨"",[stem ++ documentExtension]⟩ := by
  have long : 5 ≤ (stem ++ documentExtension).toList.length := by
    rw [chars,List.length_append]
    exact Nat.le_add_left _ _
  refine PathName.ofString_of_whole ?_ isStem.ending_whole ?_ <;>
  · intro same
    rw [same] at long
    exact absurd long (by decide)

theorem name (isStem : IsDocumentStem stem) :
    (PathName.ofString (stem ++ documentExtension)).name = stem ++ documentExtension := by
  rw [isStem.ofString]
  rfl

theorem stemOf (isStem : IsDocumentStem stem) : Text.stemOf (stem ++ documentExtension) = stem := by
  change Text.stemOf (stem ++ ("." ++ "docx")) = stem
  exact Text.stemOf_append isStem.some (by decide) (by decide)

theorem titleOf (isStem : IsDocumentStem stem) : titleOf (stem ++ documentExtension) = stem := by
  have kept : (stem ++ documentExtension).length - documentExtension.length = stem.toList.length := by
    rw [String.length_append,String.length_toList,Nat.add_sub_cancel_right]
  unfold DocPress.titleOf
  dsimp only
  rw [isStem.name,if_pos (hasDocumentExtension_append _),kept,String.toList_append,List.take_left,
    String.ofList_toList]

end IsDocumentStem

namespace Service

theorem downloadName_stem (name : Option String) :
    ∃ stem, IsDocumentStem stem ∧ downloadName name = stem ++ documentExtension := by
  refine ⟨_,?_,rfl⟩
  have whole := PathName.name_whole (orElse (name.getD "") defaultStem)
  generalize PathName.ofString (orElse (name.getD "") defaultStem) = path at whole ⊢
  by_cases none : path.stem = ""
  · rw [none]
    exact ⟨by decide,by decide⟩
  · rw [orElse_of_some none]
    exact ⟨none,fun member => whole ((Text.stemOf_prefix path.name).subset member)⟩

theorem downloadName_again (isStem : IsDocumentStem stem) :
    downloadName (some (stem ++ documentExtension)) = stem ++ documentExtension := by
  have some : stem ++ documentExtension ≠ "" := by simp [documentExtension]
  unfold downloadName
  dsimp only
  rw [Option.getD_some,orElse_of_some some,PathName.stem,isStem.name,isStem.stemOf,orElse_of_some isStem.some]

/-- Whatever a client calls its document, the download has a name of one part, with a stem before the ending
of documents. It is the name that this name gives, and the title of the document is its stem. -/
theorem downloadName_title (given : Option String) :
    let name := downloadName given
    '/' ∉ name.toList ∧ PathName.ofString name = ⟨"",[name]⟩ ∧ (∃ stem, stem ≠ "" ∧ name = stem ++ ".docx") ∧
      downloadName (some name) = name ∧ titleOf name ++ ".docx" = name := by
  obtain ⟨stem,isStem,same⟩ := downloadName_stem given
  dsimp only
  rw [same]
  exact ⟨isStem.ending_whole,isStem.ofString,⟨stem,isStem.some,rfl⟩,downloadName_again isStem,
    congrArg (· ++ ".docx") isStem.titleOf⟩

end Service

end DocPress
