import ReleaseReview.Main
import ReleaseReview.Proofs.Agreement
import ReleaseReview.Proofs.ApplicationSettings
import ReleaseReview.Proofs.Assessment
import ReleaseReview.Proofs.AttachAgreement
import ReleaseReview.Proofs.Attribution
import ReleaseReview.Proofs.Blacklist
import ReleaseReview.Proofs.Classification
import ReleaseReview.Proofs.ConditionsFiled
import ReleaseReview.Proofs.CustomerWords
import ReleaseReview.Proofs.Descent
import ReleaseReview.Proofs.ElementsSelected
import ReleaseReview.Proofs.Entries
import ReleaseReview.Proofs.FlagComparison
import ReleaseReview.Proofs.ForcedResult
import ReleaseReview.Proofs.Hurdles
import ReleaseReview.Proofs.ImageSizes
import ReleaseReview.Proofs.InitialPage
import ReleaseReview.Proofs.Interference
import ReleaseReview.Proofs.Locality
import ReleaseReview.Proofs.LowerCase
import ReleaseReview.Proofs.MissingDetails
import ReleaseReview.Proofs.MixedPages
import ReleaseReview.Proofs.ModelElements
import ReleaseReview.Proofs.NavigationWaits
import ReleaseReview.Proofs.Outcome
import ReleaseReview.Proofs.Place
import ReleaseReview.Proofs.QuotedValues
import ReleaseReview.Proofs.RecommendedAttributes
import ReleaseReview.Proofs.Recoveries
import ReleaseReview.Proofs.Rulings
import ReleaseReview.Proofs.SharedLists
import ReleaseReview.Proofs.StageOrder
import ReleaseReview.Proofs.StageWalk
import ReleaseReview.Proofs.StruckAttributes
import ReleaseReview.Proofs.Success
import ReleaseReview.Proofs.TimeoutWalk
import ReleaseReview.Proofs.Titles
import ReleaseReview.Proofs.UnwantedAttributes
import ReleaseReview.Proofs.ValuesInOrder
import ReleaseReview.Proofs.WindowInFront
import ReleaseReview.Report.Desk
