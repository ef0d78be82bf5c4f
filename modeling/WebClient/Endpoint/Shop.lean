import WebClient.Endpoint.Query

/-!
# Shop — catalog, cart, orders, addresses, reviews, seller tools and administration
-/

namespace WebClient
namespace Endpoint
namespace Shop

def withId (path : String) (id : Int) : String := withQuery path [("id", text id)]

def flag (b : Bool) : Json := .int (if b then 1 else 0)

/-! ## Catalog -/

def categories : Call := .get "/categories"

def hotProducts (limit : Int) : Call := .get (withQuery "/products/hot" [("limit", text limit)])

def newProducts (limit : Int) : Call := .get (withQuery "/products/new" [("limit", text limit)])

/-- Products, optionally of a category, with a keyword or of a page. -/
def products (category : Option Int) (keyword : Option String) (page : Option Int) : Call :=
  .get (withQuery "/products" (present
    [("category_id", category.map text), ("keyword", keyword), ("page", page.map text)]))

def product (id : Int) : Call := .get (withId "/product" id)

def reviews (product : Int) : Call := .get (withQuery "/reviews" [("product_id", text product)])

/-! ## Cart -/

def cart : Call := .get "/cart"

def cartCount : Call := .get "/cart/count"

def addToCart (product quantity : Int) : Call :=
  .post "/cart/add" (object [("product_id", .int product), ("quantity", .int quantity)])

def updateCartItem (id quantity : Int) : Call :=
  .post "/cart/update" (object [("id", .int id), ("quantity", .int quantity)])

def selectCartItem (id : Int) (selected : Bool) : Call :=
  .post "/cart/select" (object [("id", .int id), ("selected", flag selected)])

def selectAllCartItems (selected : Bool) : Call :=
  .post "/cart/select-all" (object [("selected", flag selected)])

def deleteCartItem (id : Int) : Call := .delete (withId "/cart/delete" id)

def clearCart : Call := .post "/cart/clear" (object [])

/-! ## Orders -/

def createOrder (address : Int) (remark : Option String) : Call :=
  .post "/order/create"
    (object [("address_id", .int address), ("remark", .string (remark.getD ""))])

def payOrder (order : Int) (payType : String) : Call :=
  .post "/order/pay" (object [("order_id", .int order), ("pay_type", .string payType)])

def cancelOrder (order : Int) : Call :=
  .post "/order/cancel" (object [("order_id", .int order)])

def confirmReceipt (order : Int) : Call :=
  .post "/order/receive" (object [("order_id", .int order)])

def orders (status : Option Int) : Call :=
  .get (withQuery "/orders" (present [("status", status.map text)]))

def order (id : Int) : Call := .get (withId "/order" id)

/-! ## Addresses -/

def addresses : Call := .get "/addresses"

def createAddress (address : Json) : Call := .post "/address/create" address

def updateAddress (address : Json) : Call := .post "/address/update" address

def deleteAddress (id : Int) : Call := .delete (withId "/address/delete" id)

def setDefaultAddress (id : Int) : Call := .post "/address/default" (object [("id", .int id)])

/-! ## Seller tools -/

def sellerProducts : Call := .get "/seller/products"

def sellerCreateProduct (product : Json) : Call := .post "/seller/product/create" product

def sellerUpdateProduct (product : Json) : Call := .post "/seller/product/update" product

def sellerDeleteProduct (id : Int) : Call := .delete (withId "/seller/product/delete" id)

def sellerUpdateStock (product quantity : Int) : Call :=
  .post "/seller/product/stock" (object [("product_id", .int product), ("quantity", .int quantity)])

def sellerOrders : Call := .get "/seller/orders"

def shipOrder (order : Int) (trackingNumber : String) : Call :=
  .post "/seller/order/ship"
    (object [("order_id", .int order), ("tracking_no", .string trackingNumber)])

def sellerOrderStats : Call := .get "/seller/order/stats"

def sellerReviews : Call := .get "/seller/reviews"

def replyReview (review : Int) (reply : String) : Call :=
  .post "/seller/review/reply" (object [("review_id", .int review), ("reply", .string reply)])

/-- Name, description and logo of the seller's shop. -/
def updateSellerInfo (shop : Json) : Call := .post "/user/seller" shop

/-! ## Reviews -/

/-- A review of a product of a completed order, with a rating from 1 to 5. -/
def createReview (order product rating : Int) (content : String) : Call :=
  .post "/review/create"
    (object [("order_id", .int order), ("product_id", .int product), ("rating", .int rating),
      ("content", .string content)])

/-! ## Administration -/

def adminOrderStats : Call := .get "/admin/order/stats"

def adminUpdateUserStatus (user status : Int) : Call :=
  .post "/admin/user/status" (object [("user_id", .int user), ("status", .int status)])

def adminUpdateSellerStatus (seller status : Int) : Call :=
  .post "/admin/seller/status" (object [("seller_id", .int seller), ("status", .int status)])

def adminUpdateProductStatus (product status : Int) : Call :=
  .post "/admin/product/status" (object [("product_id", .int product), ("status", .int status)])

end Shop
end Endpoint
end WebClient
