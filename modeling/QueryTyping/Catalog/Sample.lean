import QueryTyping.Catalog.Basic

/-!
# A sample catalog

A small shop: users, orders and products, two views of which one reads the other, and a second
schema with a table of a name that the first one also has. It serves for trying out look-ups.
-/

namespace QueryTyping

namespace Catalog

/-- Who buys. -/
def sampleUsers : Table :=
  ({ name := "users" } : Table)
    |>.withPrimaryKey "id" (.notNull .integer)
    |>.withColumn "email" (.notNull .string)
    |>.withColumn "name" (.orNull .string)
    |>.withColumn "created_at" (.orNull .string)

/-- What was bought, and by whom. -/
def sampleOrders : Table :=
  ({ name := "orders" } : Table)
    |>.withPrimaryKey "id" (.notNull .integer)
    |>.withColumn "user_id" (.notNull .integer)
    |>.withColumn "total" (.orNull .float)
    |>.withColumn "status" (.notNull .string)

/-- What can be bought. -/
def sampleProducts : Table :=
  ({ name := "products" } : Table)
    |>.withPrimaryKey "id" (.notNull .integer)
    |>.withColumn "name" (.notNull .string)
    |>.withColumn "price" (.notNull .float)
    |>.withColumn "image" (.orNull .blob)

/-- The orders with the names of the users. -/
def sampleUserOrders : View :=
  ({ name := "user_orders" } : View)
    |>.withColumn "name" (.orNull .string)
    |>.withColumn "total" (.orNull .float)
    |>.withReference { object := "users" }
    |>.withReference { object := "orders" }

/-- A view that reads a view. -/
def sampleBigSpenders : View :=
  ({ name := "big_spenders" } : View)
    |>.withColumn "name" (.orNull .string)
    |>.withColumn "email" (.notNull .string)
    |>.withReference { object := "user_orders" }
    |>.withReference { object := "users" }

/-- Users of former times. -/
def sampleArchive : Schema :=
  ({ name := "archive" } : Schema).withTable
    (({ name := "users" } : Table)
      |>.withPrimaryKey "legacy_id" (.notNull .integer)
      |>.withColumn "full_name" (.orNull .string))

/-- The whole sample. -/
def sample : Catalog :=
  (new "main").withTable sampleUsers
    |>.withTable sampleOrders
    |>.withTable sampleProducts
    |>.withView sampleUserOrders
    |>.withView sampleBigSpenders
    |>.withSchema sampleArchive

/-- A definition of a part of the sample, in YAML. -/
def sampleDefinition : String :=
  "
default_schema: main
schemas:
  main:
    tables:
      users:
        columns:
          - column_name: id
            column_type: \x7b type: Integer, nullable: false \x7d
            primary_key: true
          - column_name: email
            column_type: \x7b type: String, nullable: false \x7d
      orders:
        columns:
          - column_name: id
            column_type: \x7b type: Integer, nullable: false \x7d
            primary_key: true
          - column_name: user_id
            column_type: \x7b type: Integer, nullable: false \x7d
          - column_name: total
            column_type: \x7b type: Float, nullable: true \x7d
    views:
      user_orders:
        columns:
          - column_name: email
            column_type: \x7b type: String, nullable: false \x7d
          - column_name: total
            column_type: \x7b type: Float, nullable: true \x7d
        references:
          - object_name: users
          - object_name: orders
  archive:
    tables:
      users:
        columns:
          - column_name: legacy_id
            column_type: \x7b type: Integer, nullable: false \x7d
            primary_key: true
"

end Catalog

end QueryTyping
