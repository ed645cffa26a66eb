import EntityViews.Schema

/-!
The tables of the language-learning domain. A column that holds the id of another row is named for the relation with
`Id` at the end.
-/

namespace EntityViews.Learning

def column (name : String) (kind : ColumnKind) : Column := ⟨name, .scalar (some kind), false, .null, false, false⟩

def key (name entity : String) : Column := ⟨name, .ref (some entity), false, .null, false, false⟩

def required (c : Column) : Column := { c with required := true }

def unique (c : Column) : Column := { c with unique := true }

def indexed (c : Column) : Column := { c with indexed := true }

def withDefault (v : Value) (c : Column) : Column := { c with default := v }

/-- A relation by the column that is named for it. -/
def toOne (name target : String) : Relation := ⟨name, target, .manyToOne (name ++ "Id"), []⟩

def toMany (name target key : String) (orderBy : List String) : Relation := ⟨name, target, .oneToMany key, orderBy⟩

def through (name target table sourceKey targetKey : String) : Relation :=
  ⟨name, target, .manyToMany table sourceKey targetKey, []⟩

def counting (name sql : String) : Formula := ⟨name, sql, .scalar (some .int)⟩

def language : Entity where
  name := "Language"
  columns := [required (unique (column "code" .str)),
    required (column "name" .str),
    withDefault (.text "") (column "greeting" .str),
    withDefault (.int 0) (column "secondSpeakersCount" .int),
    column "flag" .str,
    column "flagCircular" .str,
    column "flagEmoji" .str,
    withDefault (.text "") (column "color" .str),
    withDefault (.bool false) (column "isRtl" .bool),
    withDefault (.bool false) (column "isAbjad" .bool),
    withDefault (.bool false) (column "isSupported" .bool),
    column "levelThresholds" .json]
  relations := []
  formulas := [counting "learnersCount"
      ("(SELECT COUNT(ml.\"learnerId\") FROM \"MapLearnerLanguage\" ml WHERE ml.\"languageId\" = " ++
      "\x7balias\x7d.\"id\")")]

def user : Entity where
  name := "User"
  columns := [required (unique (column "username" .str)),
    required (unique (column "email" .str)),
    withDefault (.bool false) (column "isEmailConfirmed" .bool),
    withDefault (.bool false) (column "isBanned" .bool),
    column "pendingEmail" .str,
    column "accountCreatedAt" .datetime]
  relations := [⟨"profile", "Profile", .oneToOneInverse "userId", []⟩]
  formulas := [⟨"isPendingEmailChange",
      "(\x7balias\x7d.\"pendingEmail\" IS NOT NULL)", .scalar (some .bool)⟩]

def profile : Entity where
  name := "Profile"
  columns := [required (unique (key "userId" "User")),
    withDefault (.text "") (column "profilePicture" .str),
    withDefault (.text "") (column "bio" .str),
    withDefault (.bool true) (column "isPublic" .bool)]
  relations := [toOne "user" "User",
    through "languagesLearning" "Language" "MapLearnerLanguage" "learnerId" "languageId"]
  formulas := []

def collection : Entity where
  name := "Collection"
  columns := [required (column "title" .str),
    withDefault (.text "") (column "description" .str),
    withDefault (.text "") (column "image" .str),
    column "addedOn" .datetime,
    withDefault (.bool true) (column "isPublic" .bool),
    required (key "languageId" "Language"),
    required (key "addedById" "Profile")]
  relations := [toOne "language" "Language",
    toOne "addedBy" "Profile",
    toMany "texts" "Text" "collectionId" ["orderInCollection", "id"],
    through "bookmarkers" "Profile" "CollectionBookmark" "collectionId" "bookmarkerId"]
  formulas := [⟨"avgPastViewersCountPerText",
      ("(SELECT CAST(COUNT(DISTINCT h.\"pastViewerId\") AS REAL) / MAX(COUNT(DISTINCT t.\"id\"), " ++
      "1) FROM \"Text\" t LEFT JOIN \"TextHistoryEntry\" h ON h.\"textId\" = t.\"id\" WHERE " ++
      "t.\"collectionId\" = \x7balias\x7d.\"id\")"), .scalar (some .decimal)⟩]

def text : Entity where
  name := "Text"
  columns := [required (column "title" .str),
    required (column "content" .text),
    column "parsedTitle" .str,
    column "parsedContent" .text,
    withDefault (.text "") (column "audio" .str),
    withDefault (.text "") (column "image" .str),
    column "orderInCollection" .int,
    withDefault (.bool false) (column "isProcessing" .bool),
    column "addedOn" .datetime,
    withDefault (.bool true) (column "isPublic" .bool),
    column "level" .str,
    required (key "languageId" "Language"),
    required (key "addedById" "Profile"),
    key "collectionId" "Collection"]
  relations := [toOne "language" "Language",
    toOne "addedBy" "Profile",
    toOne "collection" "Collection",
    through "vocabs" "Vocab" "MapTextVocab" "textId" "vocabId",
    through "bookmarkers" "Profile" "TextBookmark" "textId" "bookmarkerId",
    toMany "historyEntries" "TextHistoryEntry" "textId" ["-timeViewed"]]
  formulas := [counting "pastViewersCount"
      ("(SELECT COUNT(DISTINCT h.\"pastViewerId\") FROM \"TextHistoryEntry\" h WHERE h.\"textId\" " ++
      "= \x7balias\x7d.\"id\")"),
    ⟨"isLastInCollection",
      ("(\x7balias\x7d.\"orderInCollection\" = (SELECT MAX(o.\"orderInCollection\") FROM \"Text\" " ++
      "o WHERE o.\"collectionId\" = \x7balias\x7d.\"collectionId\"))"), .scalar (some .bool)⟩]

def textHistoryEntry : Entity where
  name := "TextHistoryEntry"
  columns := [required (key "textId" "Text"),
    key "pastViewerId" "Profile",
    column "timeViewed" .datetime]
  relations := [toOne "text" "Text",
    toOne "pastViewer" "Profile"]
  formulas := []

def textBookmark : Entity where
  name := "TextBookmark"
  columns := [required (key "textId" "Text"),
    required (key "bookmarkerId" "Profile")]
  relations := []
  formulas := []

def collectionBookmark : Entity where
  name := "CollectionBookmark"
  columns := [required (key "collectionId" "Collection"),
    required (key "bookmarkerId" "Profile")]
  relations := []
  formulas := []

def vocab : Entity where
  name := "Vocab"
  columns := [required (indexed (column "text" .str)),
    withDefault (.bool false) (column "isPhrase" .bool),
    required (key "languageId" "Language")]
  relations := [toOne "language" "Language",
    toMany "meanings" "Meaning" "vocabId" [],
    toMany "learnerMeanings" "Meaning" "vocabId" [],
    through "textsAppearingIn" "Text" "MapTextVocab" "vocabId" "textId"]
  formulas := [counting "learnersCount"
      ("(SELECT COUNT(DISTINCT lv.\"learnerId\") FROM \"MapLearnerVocab\" lv WHERE lv.\"vocabId\" " ++
      "= \x7balias\x7d.\"id\" AND lv.\"level\" != -1)"),
    counting "textsCount"
      ("(SELECT COUNT(DISTINCT tv.\"textId\") FROM \"MapTextVocab\" tv WHERE tv.\"vocabId\" = " ++
      "\x7balias\x7d.\"id\")")]

def meaning : Entity where
  name := "Meaning"
  columns := [required (column "text" .str),
    required (key "vocabId" "Vocab"),
    key "addedById" "Profile",
    required (key "languageId" "Language"),
    column "addedOn" .datetime,
    column "attribution" .json]
  relations := [toOne "vocab" "Vocab",
    toOne "addedBy" "Profile",
    toOne "language" "Language",
    through "learners" "Profile" "MapLearnerMeaning" "meaningId" "learnerId"]
  formulas := [counting "learnersCount"
      ("(SELECT COUNT(lm.\"learnerId\") FROM \"MapLearnerMeaning\" lm WHERE lm.\"meaningId\" = " ++
      "\x7balias\x7d.\"id\")")]

def mapTextVocab : Entity where
  name := "MapTextVocab"
  columns := [required (key "textId" "Text"),
    required (key "vocabId" "Vocab")]
  relations := []
  formulas := []

def mapLearnerVocab : Entity where
  name := "MapLearnerVocab"
  columns := [required (key "vocabId" "Vocab"),
    required (key "learnerId" "Profile"),
    withDefault (.int 1) (column "level" .int),
    withDefault (.text "") (column "notes" .str),
    column "savedOn" .datetime]
  relations := [toOne "vocab" "Vocab",
    toOne "learner" "Profile"]
  formulas := []

def mapLearnerLanguage : Entity where
  name := "MapLearnerLanguage"
  columns := [required (key "learnerId" "Profile"),
    required (key "languageId" "Language"),
    column "startedLearningOn" .datetime,
    column "lastOpened" .datetime]
  relations := [toOne "learner" "Profile",
    toOne "language" "Language"]
  formulas := []

def mapLearnerMeaning : Entity where
  name := "MapLearnerMeaning"
  columns := [required (key "meaningId" "Meaning"),
    required (key "learnerId" "Profile")]
  relations := []
  formulas := []

def dictionary : Entity where
  name := "Dictionary"
  columns := [required (key "languageId" "Language"),
    required (column "name" .str),
    required (column "lookupLink" .str),
    required (column "dictionaryLink" .str),
    withDefault (.bool false) (column "isDefault" .bool),
    withDefault (.bool false) (column "isPronunciation" .bool)]
  relations := [toOne "language" "Language"]
  formulas := []

def entities : List Entity :=
  [language, user, profile, collection, text, textHistoryEntry, textBookmark,
    collectionBookmark, vocab, meaning, mapTextVocab, mapLearnerVocab, mapLearnerLanguage, mapLearnerMeaning, dictionary]

def schema : Schema := .ofEntities entities

end EntityViews.Learning
