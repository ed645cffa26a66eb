import EntityViews.Fetch.Context

/-!
The views that responses are made of.
-/

namespace EntityViews.Learning

def view (fields : List String) (relations : List (String × View)) : View := .full fields relations

def addedByView : View := view [] [("user", .names ["username"])]

def languageView : View :=
  view ["id", "code", "name", "greeting", "secondSpeakersCount", "flag", "flagCircular", "flagEmoji", "color",
    "isRtl", "isAbjad", "levelThresholds", "learnersCount"] []

def profileView : View := view ["id", "profilePicture", "bio", "isPublic"] [("languagesLearning", languageView)]

def userPublicView : View := view ["username", "isBanned"] [("profile", profileView)]

def collectionSummaryFields : List String := ["id", "title", "description", "image", "addedOn", "isPublic"]

def collectionSummaryView : View :=
  view collectionSummaryFields [("language", .names ["code"]), ("addedBy", addedByView)]

def textSummaryView : View :=
  view ["id", "title", "audio", "image", "orderInCollection", "isLastInCollection", "isProcessing", "addedOn",
    "isPublic", "level", "pastViewersCount"] [("language", .names ["code"]), ("addedBy", addedByView)]

def textView : View :=
  view ["id", "title", "content", "parsedTitle", "parsedContent", "audio", "image", "orderInCollection",
    "isLastInCollection", "isProcessing", "addedOn", "isPublic", "level", "pastViewersCount"]
    [("language", .names ["code"]), ("addedBy", addedByView), ("collection", collectionSummaryView)]

/-- Fields that only learners who are logged in get. -/
def learnerFields : List String := ["vocabsByLevel", "isBookmarked"]

def textLoggedInView : View := textView.merge (.names learnerFields)

def collectionView : View :=
  view (collectionSummaryFields ++ ["avgPastViewersCountPerText"])
    [("language", .names ["code"]), ("addedBy", addedByView), ("texts", textSummaryView)]

def collectionLoggedInView : View :=
  collectionView.merge (view learnerFields [("texts", .names learnerFields)])

def meaningSummaryView : View :=
  view ["id", "text", "learnersCount", "addedOn", "attribution"]
    [("language", .names ["code"]), ("addedBy", addedByView)]

def vocabView : View :=
  view ["id", "text", "isPhrase", "learnersCount", "textsCount"]
    [("language", .names ["code"]), ("meanings", meaningSummaryView)]

def vocabForTextView : View :=
  view ["id", "text", "isPhrase", "learnersCount"] [("language", .names ["code"])]

def learnerVocabView : View :=
  view ["level", "notes"] [("vocab", view ["id", "text", "isPhrase", "learnersCount"]
    [("language", .names ["code"]), ("learnerMeanings", meaningSummaryView), ("meanings", meaningSummaryView)])]

def learnerLanguageView : View := view ["startedLearningOn", "lastOpened"] [("language", languageView)]

def dictionaryView : View :=
  view ["id", "name", "lookupLink", "dictionaryLink", "isPronunciation"] [("language", .names ["code"])]

/-- A view with the name that it goes by and the entity that it is of. -/
structure NamedView where
  name : String
  entity : String
  view : View

def namedViews : List NamedView :=
  [⟨"language", "Language", languageView⟩,
    ⟨"profile", "Profile", profileView⟩,
    ⟨"user-public", "User", userPublicView⟩,
    ⟨"text-summary", "Text", textSummaryView⟩,
    ⟨"text", "Text", textView⟩,
    ⟨"text-logged-in", "Text", textLoggedInView⟩,
    ⟨"collection-summary", "Collection", collectionSummaryView⟩,
    ⟨"collection", "Collection", collectionView⟩,
    ⟨"collection-logged-in", "Collection", collectionLoggedInView⟩,
    ⟨"meaning-summary", "Meaning", meaningSummaryView⟩,
    ⟨"vocab", "Vocab", vocabView⟩,
    ⟨"vocab-for-text", "Vocab", vocabForTextView⟩,
    ⟨"learner-vocab", "MapLearnerVocab", learnerVocabView⟩,
    ⟨"learner-language", "MapLearnerLanguage", learnerLanguageView⟩,
    ⟨"dictionary", "Dictionary", dictionaryView⟩]

def namedView? (name : String) : Option NamedView := namedViews.find? (·.name == name)

def textViewFor (c : Context) : String := if c.isAuthenticated then "text-logged-in" else "text"

def collectionViewFor (c : Context) : String := if c.isAuthenticated then "collection-logged-in" else "collection"

end EntityViews.Learning
